import TaggedStory.Proofs.Catalog.Sightings
import TaggedStory.Proofs.Node.Heading
import TaggedStory.Proofs.Node.Probability
import TaggedStory.Proofs.Tag.Cutting
/-!
What a text says about the names in the record that is read from it.
-/
set_option autoImplicit false

namespace TaggedStory

open Text Scanner Tag Mark

namespace Video

-- The forms of the tags under which every name of the record is known.
structure Covers (known : String → Prop) (text : List Char) (video : Video) : Prop where
  rates : Flat '<' '>' text → PlainRates text → ∀ rate ∈ video.rates, known rate.name
  upper : Flat '<' '>' text → TightLimits text → OneName Catalog.maxLimit Prod.fst text →
    ∀ limit ∈ video.maxOverrides, known limit.name
  lower : Flat '<' '>' text → TightLimits text → OneName Catalog.minLimit Prod.fst text →
    ∀ limit ∈ video.minOverrides, known limit.name
  bar : Flat '[' ']' text → OneName Catalog.barName id text → known video.variableBarName

-- The parts of a record that hold such names.
def tracked (video : Video) : List Rate × List Override × List Override × String :=
  (video.rates, video.maxOverrides, video.minOverrides, video.variableBarName)

namespace Covers

variable {known more : String → Prop} {text : List Char} {video : Video} (covers : Covers known text video)

include covers

theorem mono (within : ∀ name, known name → more name) : Covers more text video :=
  ⟨fun flat plain rate member => within _ (covers.rates flat plain rate member),
    fun flat tight one limit member => within _ (covers.upper flat tight one limit member),
    fun flat tight one limit member => within _ (covers.lower flat tight one limit member),
    fun flat one => within _ (covers.bar flat one)⟩

theorem same (other : Video) (tracks : tracked other = tracked video) : Covers known text other := by
  simp only [tracked, Prod.mk.injEq] at tracks
  obtain ⟨rates, upper, lower, bar⟩ := tracks
  exact ⟨rates ▸ covers.rates, upper ▸ covers.upper, lower ▸ covers.lower, bar ▸ covers.bar⟩

end Covers

section Told

variable {raw : List Char}

def Told (raw : List Char) (node : NodeOf Video) : Prop :=
  Covers (fun name => Mentioned raw name.toList) raw node.body

theorem told_trimmed (name : List Char) (told : Mentioned raw name) : Mentioned raw (trimmedText name).toList := by
  rw [Mentioned, Collector.name_of_text]
  exact told

theorem untold : Mentioned raw "".toList :=
  fun _ known => by cases known

theorem told_kept {rule : Rule (NodeOf Video)} (keeps : rule.Keeps fun node => tracked node.body) :
    rule.Upholds raw (Told raw) :=
  fun text _ move member node changed told accepted => told.same changed.body (keeps text move member node changed accepted)

theorem told_bar : (onBody "variable_bar" variableBar setVariableBar).Upholds raw (Told raw) :=
  Rule.upholds_set fun text thinned found stands _ told =>
    ⟨told.rates, told.upper, told.lower, fun flat one => told_trimmed _ (bar_mentioned flat text thinned found stands one)⟩

theorem told_limit :
    (Rule.setEvery "default_override" limit fun limit => NodeOf.updateBody (addLimit limit)).Upholds raw (Told raw) := by
  refine Rule.upholds_every fun text thinned found stands node changed told accepted => ?_
  simp only [Except.ok.injEq, Option.some.injEq] at accepted
  have mentioned := fun flat tight => limit_mentioned flat tight text thinned found stands
  have added : changed.body = addLimit found.value node.body := by rw [← accepted]; rfl
  rw [Told, added, addLimit]
  cases isMax : found.value.isMax with
  | true =>
      refine ⟨told.rates, fun flat tight one => ?_, told.lower, told.bar⟩
      refine List.forall_mem_append.mpr ⟨told.upper flat tight one, List.forall_mem_singleton.mpr ?_⟩
      exact told_trimmed _ (mentioned flat tight (by rw [isMax]; exact one))
  | false =>
      refine ⟨told.rates, told.upper, fun flat tight one => ?_, told.bar⟩
      refine List.forall_mem_append.mpr ⟨told.lower flat tight one, List.forall_mem_singleton.mpr ?_⟩
      exact told_trimmed _ (mentioned flat tight (by rw [isMax]; exact one))

theorem told_rate : (Rule.every "rate_effect" rate addRate).Upholds raw (Told raw) := by
  refine Rule.upholds_every fun text thinned found stands node changed told accepted => ?_
  obtain ⟨perSecond, rfl⟩ := add_rate_shape node found.value changed accepted
  refine ⟨fun flat plain => ?_, told.upper, told.lower, told.bar⟩
  refine List.forall_mem_append.mpr ⟨told.rates flat plain, List.forall_mem_singleton.mpr ?_⟩
  exact told_trimmed _ (rate_mentioned flat plain text thinned found stands)

end Told

-- Only the limits, the rates and the bar hold such names.
theorem rules_tell (raw : List Char) : ∀ rule ∈ rules, rule.Upholds raw (Told raw) := by
  have showcased : ∀ products video, tracked (setShowcase products video) = tracked video := by
    intro products video
    rw [setShowcase]
    split <;> rfl
  simp only [rules, List.forall_mem_cons]
  exact ⟨told_kept Rule.keeps_drop, told_kept (Rule.keeps_literal fun _ => rfl), told_kept (Rule.keeps_set fun _ _ => rfl),
    told_kept (Rule.keeps_literal fun _ => rfl), told_kept (Rule.keeps_literal fun _ => rfl),
    told_kept (random_time_keeps fun _ _ _ => rfl), told_kept (Rule.keeps_set fun _ _ => rfl),
    told_kept (Rule.keeps_set fun _ _ => rfl), told_kept (Rule.keeps_literal fun _ => rfl),
    told_kept (Rule.keeps_set_every fun _ _ => rfl), told_kept (Rule.keeps_set fun _ _ => rfl),
    told_kept (Rule.keeps_keeping (Rule.keeps_literal fun _ => rfl)), told_kept (Rule.keeps_literal fun _ => rfl),
    told_kept (Rule.keeps_set fun _ _ => rfl), told_kept (Rule.keeps_literal fun _ => rfl),
    told_kept (random_bracket_keeps fun _ _ => rfl), told_kept (random_probability_keeps fun _ _ => rfl),
    told_kept (Rule.keeps_set fun _ _ => rfl), told_kept (Rule.keeps_set fun _ _ => rfl), told_bar,
    told_kept (Rule.keeps_set fun products node => showcased products node.body), told_limit, told_rate,
    told_kept (Rule.keeps_conditions fun _ _ => rfl), told_kept (Rule.keeps_effects fun _ _ => rfl), List.forall_mem_nil _⟩

theorem opens_bar : Opens variableBar '[' :=
  opens_bind _ _ '[' (opens_char '[')

theorem opens_endpoint : Opens endpoint '[' :=
  opens_or_else _ _ '[' (opens_word _ '[' (by decide)) (opens_word _ '[' (by decide))

theorem rules_cut : ∀ rule ∈ rules, rule.Cuts := by
  have bracket : isOpening '[' = true := by decide
  have angle : isOpening '<' = true := by decide
  have guillemets : isOpening '《' = true := by decide
  have named : ∀ {name word : String} {act : NodeOf Video → List Char → Attempt (Option (NodeOf Video))},
      word.toList.head? = some '[' → (Rule.first name (valued word) act).Cuts :=
    fun first => Rule.cuts_first (opens_valued _ '[' first) bracket
  have worded : ∀ {α : Type} {name word : String} {next : Unit → Scanner α}
      {act : NodeOf Video → α → Attempt (Option (NodeOf Video))},
      word.toList.head? = some '[' → (Rule.first name (Scanner.word word >>= next) act).Cuts :=
    fun first => Rule.cuts_first (opens_bind _ _ '[' (opens_word _ '[' first)) bracket
  simp only [rules, List.forall_mem_cons]
  exact ⟨Rule.cuts_first opens_ad guillemets, Rule.cuts_literal (by decide), named (by decide),
    Rule.cuts_literal (by decide), Rule.cuts_literal (by decide), worded (by decide), worded (by decide), named (by decide),
    Rule.cuts_literal (by decide), Rule.cuts_every opens_endpoint bracket, worded (by decide), Rule.cuts_keeping,
    Rule.cuts_literal (by decide), named (by decide), Rule.cuts_literal (by decide), named (by decide),
    Rule.cuts_every (opens_span '《' '》') guillemets, named (by decide), named (by decide),
    Rule.cuts_first opens_bar bracket, worded (by decide), Rule.cuts_every opens_limit angle, Rule.cuts_every opens_rate angle,
    Rule.cuts_conditions, Rule.cuts_effects, List.forall_mem_nil _⟩

end Video

namespace Node

theorem parse_told (kind : Kind) (text : String) (header : Header) (parsed : Parsed)
    (done : parseAs kind text header = .ok parsed) (video : Video) (body : parsed.node.body = .video video) :
    video.Covers (fun name => Video.Mentioned text.toList name.toList) text.toList := by
  cases kind with
  | video =>
      obtain ⟨state, applied, rfl⟩ := (attempt_map_ok _ _ _).mp done
      obtain rfl : state.2.body = video := Body.video.inj body
      have start : Video.Told text.toList ⟨header, {}⟩ := ⟨by simp, by simp, by simp, fun _ _ => Video.untold⟩
      exact (Rule.apply_all_upholds text.toList (Video.Told text.toList) Video.rules Video.rules_cut (Video.rules_tell _)
        ⟨header, {}⟩ state start applied).2
  | _ =>
      obtain ⟨state, _, rfl⟩ := (attempt_map_ok _ _ _).mp done
      cases body

end Node

end TaggedStory
