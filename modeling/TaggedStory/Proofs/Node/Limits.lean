import TaggedStory.Node.Video
import TaggedStory.Proofs.Tag.Conditions
import TaggedStory.Proofs.Tag.Effects
import TaggedStory.Proofs.Text.Thinning
/-!
Limits of a video: the tags that set them survive their own text, and neither a condition nor an effect
is taken for one.
-/
set_option autoImplicit false

namespace TaggedStory.Video

open Text Scanner Tag

def limitWordText (isMax : Bool) : String :=
  if isMax then "最大默认值" else "最小默认值"

section Starting

-- The text in front of the first colon is a word between blanks, and what follows the colon does not matter.
theorem default_limit_shape (text after : List Char) : StateT.run defaultLimit text = some ((), after) ↔
    ∃ gap isMax blank sign, text = gap ++ ((limitWordText isMax).toList ++ (blank ++ sign :: after)) ∧
      (∀ c ∈ gap, isBlank c = true) ∧ (∀ c ∈ blank, isBlank c = true) ∧ (sign = ':' ∨ sign = '：') := by
  constructor
  · intro done
    rw [defaultLimit, bind_succeeds] at done
    obtain ⟨_, afterGap, first, done⟩ := done
    rw [bind_succeeds] at done
    obtain ⟨_, afterWord, second, done⟩ := done
    rw [bind_succeeds] at done
    obtain ⟨_, afterBlank, third, done⟩ := done
    obtain ⟨sign, isColon, rfl⟩ := (colon_succeeds _ _ _).mp done
    obtain ⟨gap, rfl, gapBlank⟩ := blanks_split _ _ _ first
    obtain ⟨blank, rfl, blankBlank⟩ := blanks_split _ _ _ third
    obtain ⟨isMax, rfl⟩ : ∃ isMax, afterGap = (limitWordText isMax).toList ++ (blank ++ sign :: after) := by
      change (StateT.run (word "最大默认值") afterGap <|> StateT.run (word "最小默认值") afterGap) = _ at second
      cases found : StateT.run (word "最大默认值") afterGap with
      | some pair =>
          rw [found] at second
          exact ⟨true, (word_succeeds _ _ _ _).mp (found.trans second)⟩
      | none =>
          rw [found] at second
          exact ⟨false, (word_succeeds _ _ _ _).mp second⟩
    exact ⟨gap, isMax, blank, sign, rfl, gapBlank, blankBlank, isColon⟩
  · rintro ⟨gap, isMax, blank, sign, rfl, gapBlank, blankBlank, isColon⟩
    have solid : isBlank sign = false := by rcases isColon with rfl | rfl <;> decide
    have named : StateT.run (word "最大默认值" <|> word "最小默认值")
        ((limitWordText isMax).toList ++ (blank ++ sign :: after)) = some ((), blank ++ sign :: after) := by
      cases isMax <;> rfl
    obtain ⟨c, letters, front, first⟩ : ∃ c letters, (limitWordText isMax).toList = c :: letters ∧ isBlank c = false := by
      cases isMax <;> exact ⟨_, _, rfl, by decide⟩
    have started := run_gap gap c (letters ++ (blank ++ sign :: after)) gapBlank first
    rw [← List.cons_append, ← front] at started
    refine (bind_succeeds _ _ _ _ _).mpr ⟨(), _, started, ?_⟩
    refine (bind_succeeds _ _ _ _ _).mpr ⟨(), _, named, ?_⟩
    refine (bind_succeeds _ _ _ _ _).mpr ⟨(), _, run_gap blank sign after blankBlank solid, ?_⟩
    exact (colon_succeeds _ _ _).mpr ⟨sign, isColon, rfl⟩

theorem limit_word_shape (text rest : List Char) (isMax : Bool) (done : StateT.run limitWord text = some (isMax, rest)) :
    text = (limitWordText isMax).toList ++ rest := by
  change (StateT.run (word "最大默认值" >>= fun _ => pure true) text <|>
    StateT.run (word "最小默认值" >>= fun _ => pure false) text) = _ at done
  cases first : StateT.run (word "最大默认值" >>= fun _ => (pure true : Scanner Bool)) text with
  | some pair =>
      rw [first] at done
      obtain ⟨_, _, read, done⟩ := (bind_succeeds _ _ _ _ _).mp (first.trans done)
      rw [word_succeeds] at read
      rw [pure_succeeds] at done
      rw [read, ← done.1, ← done.2]
      rfl
  | none =>
      rw [first] at done
      have second : StateT.run (word "最小默认值" >>= fun _ => (pure false : Scanner Bool)) text = some (isMax, rest) := done
      obtain ⟨_, _, read, done⟩ := (bind_succeeds _ _ _ _ _).mp second
      rw [word_succeeds] at read
      rw [pure_succeeds] at done
      rw [read, ← done.1, ← done.2]
      rfl

-- A tag that sets a limit, with the blanks that may stand around its word.
structure LimitTag (body : List Char) (limit : Limit) (gap blank : List Char) (first second : Char) : Prop where
  shape : body = gap ++ ((limitWordText limit.isMax).toList ++ (blank ++ first :: (limit.name ++ second :: limit.value)))
  gapBlank : ∀ c ∈ gap, isBlank c = true
  blankBlank : ∀ c ∈ blank, isBlank c = true
  firstColon : first = ':' ∨ first = '：'
  secondColon : second = ':' ∨ second = '：'
  named : limit.name ≠ []
  letters : ∀ c ∈ limit.name, isLimitName c = true
  valued : limit.value ≠ []
  inside : '>' ∉ limit.value

theorem limit_tag (text rest : List Char) (limit : Limit) (done : StateT.run Video.limit text = some (limit, rest)) :
    ∃ body gap blank first second, text = enclosed '<' '>' body ++ rest ∧ LimitTag body limit gap blank first second := by
  rw [Video.limit] at done
  obtain ⟨_, opening, done⟩ := char_then done
  obtain ⟨gap, _, gapShape, gapBlank, done⟩ := blanks_then done
  obtain ⟨isMax, _, worded, done⟩ := (bind_succeeds _ _ _ _ _).mp done
  obtain ⟨blank, _, blankShape, blankBlank, done⟩ := blanks_then done
  obtain ⟨first, _, firstShape, firstColon, done⟩ := colon_then done
  obtain ⟨name, _, nameShape, named, letters, done⟩ := many1_then done
  obtain ⟨second, _, secondShape, secondColon, done⟩ := colon_then done
  rw [upTo, bind_assoc] at done
  obtain ⟨value, _, valueShape, valued, accepted, done⟩ := many1_then done
  rw [bind_assoc] at done
  obtain ⟨_, ends, done⟩ := char_then done
  rw [pure_bind, pure_succeeds] at done
  obtain ⟨rfl, rfl⟩ := done
  refine ⟨_, gap, blank, first, second, ?_, ⟨rfl, gapBlank, blankBlank, firstColon, secondColon, named, letters, valued,
    fun member => by simpa using accepted '>' member⟩⟩
  rw [opening, gapShape, limit_word_shape _ _ _ worded, blankShape, firstShape, nameShape, secondShape, valueShape, ends]
  simp [enclosed]

-- A limit starts like the setting that is no effect.
theorem limit_refused (text : List Char) (refused : StateT.run defaultLimit text = none) :
    StateT.run limit ('<' :: text) = none := by
  cases done : StateT.run limit ('<' :: text) with
  | none => rfl
  | some pair =>
      obtain ⟨body, gap, blank, first, second, shape, tag⟩ := limit_tag _ _ pair.1 done
      have whole : text = gap ++ ((limitWordText pair.1.isMax).toList ++
          (blank ++ first :: (pair.1.name ++ second :: (pair.1.value ++ '>' :: pair.2)))) := by
        rw [enclosed, tag.shape, List.cons_append, List.cons.injEq] at shape
        rw [shape.2]
        simp
      rw [(default_limit_shape text _).mpr ⟨gap, _, blank, first, whole, tag.gapBlank, tag.blankBlank, tag.firstColon⟩] at refused
      cases refused

theorem default_limit_longer (text rest : List Char) (c : Char) (other : isSettingSign c = false)
    (notColon : c ≠ ':' ∧ c ≠ '：') (refused : StateT.run defaultLimit text = none) :
    StateT.run defaultLimit (text ++ c :: rest) = none := by
  cases done : StateT.run defaultLimit (text ++ c :: rest) with
  | none => rfl
  | some pair =>
      obtain ⟨value, after⟩ := pair
      obtain ⟨gap, isMax, blank, sign, shape, gapBlank, blankBlank, isColon⟩ := (default_limit_shape _ _).mp done
      have outside : c ∉ gap ++ ((limitWordText isMax).toList ++ (blank ++ [sign])) := by
        have noBlank : isBlank c = false := by
          cases blank : isBlank c with
          | false => rfl
          | true => rw [setting_blank c blank] at other; cases other
        simp only [List.mem_append, List.mem_singleton, not_or]
        refine ⟨fun member => ?_, fun member => ?_, fun member => ?_, fun same => ?_⟩
        · rw [gapBlank c member] at noBlank
          cases noBlank
        · have letters : ∀ x ∈ (limitWordText isMax).toList, isSettingSign x = true := by cases isMax <;> decide
          rw [letters c member] at other
          cases other
        · rw [blankBlank c member] at noBlank
          cases noBlank
        · rw [← same] at isColon
          exact isColon.elim notColon.1 notColon.2
      have split := List.append_eq_append_iff.mp
        (show text ++ c :: rest = (gap ++ ((limitWordText isMax).toList ++ (blank ++ [sign]))) ++ after by simpa using shape)
      rcases split with ⟨later, same, tail⟩ | ⟨later, same, _⟩
      · cases later with
        | nil =>
            have started := (default_limit_shape text []).mpr
              ⟨gap, isMax, blank, sign, by simpa using same.symm, gapBlank, blankBlank, isColon⟩
            rw [started] at refused
            cases refused
        | cons d later =>
            rw [List.cons_append, List.cons.injEq] at tail
            refine absurd ?_ outside
            rw [same, tail.1]
            exact List.mem_append_right text List.mem_cons_self
      · have started := (default_limit_shape text later).mpr
          ⟨gap, isMax, blank, sign, by simpa using same, gapBlank, blankBlank, isColon⟩
        rw [started] at refused
        cases refused

end Starting

structure WritableLimit (override : Override) : Prop where
  name : Plain override.name
  noColon : ':' ∉ override.name.toList
  value : Plain override.value

def limitBody (isMax : Bool) (override : Override) : List Char :=
  (limitWordText isMax).toList ++ (':' :: (override.name.toList ++ (':' :: override.value.toList)))

def limitPiece (tag : Bool × Override) : List Char :=
  '<' :: (limitBody tag.1 tag.2 ++ ['>'])

section Reading

variable (tag : Bool × Override) (writable : WritableLimit tag.2)

include writable

theorem name_limits : ∀ c ∈ tag.2.name.toList, isLimitName c = true := by
  intro c member
  have noColon : c ≠ ':' := fun same => writable.noColon (same ▸ member)
  have noWide : c ≠ '：' := fun same => by
    have half := writable.name.halfWidth c member
    rw [same] at half
    exact absurd half (by decide)
  have noAngle : c ≠ '>' := fun same => writable.name.absent '>' (by decide) (same ▸ member)
  simp [isLimitName, noColon, noWide, noAngle]

theorem reads_limit : Reads limit (limitPiece tag) ⟨tag.1, tag.2.name.toList, tag.2.value.toList⟩ := by
  intro rest
  obtain ⟨isMax, override⟩ := tag
  have unspaced : ∀ text, StateT.run blanks ((limitWordText isMax).toList ++ text) =
      some ((), (limitWordText isMax).toList ++ text) := fun text => by cases isMax <;> rfl
  have marked : ∀ text, StateT.run limitWord ((limitWordText isMax).toList ++ text) = some (isMax, text) :=
    fun text => by cases isMax <;> rfl
  have named := run_many1 isLimitName override.name.toList ':' (override.value.toList ++ '>' :: rest)
    writable.name.nonempty_list (name_limits (isMax, override) writable) (by decide)
  have value := reads_up_to '>' override.value.toList writable.value.nonempty_list (writable.value.absent '>' (by decide)) rest
  rw [List.append_assoc, List.singleton_append] at value
  simp only [limitPiece, limitBody, List.cons_append, List.append_assoc, List.nil_append]
  refine (bind_succeeds _ _ _ _ _).mpr ⟨(), _, rfl, ?_⟩
  refine (bind_succeeds _ _ _ _ _).mpr ⟨(), _, unspaced _, ?_⟩
  refine (bind_succeeds _ _ _ _ _).mpr ⟨isMax, _, marked _, ?_⟩
  refine (bind_succeeds _ _ _ _ _).mpr ⟨(), _, rfl, ?_⟩
  refine (bind_succeeds _ _ _ _ _).mpr ⟨(), _, rfl, ?_⟩
  refine (bind_succeeds _ _ _ _ _).mpr ⟨_, _, named, ?_⟩
  refine (bind_succeeds _ _ _ _ _).mpr ⟨(), _, rfl, ?_⟩
  exact (bind_succeeds _ _ _ _ _).mpr ⟨_, _, value, rfl⟩

theorem limit_body_calm : Calm (limitBody tag.1 tag.2) := by
  have word : Calm (limitWordText tag.1).toList := by cases tag.1 <;> decide
  exact word.append (.cons (by decide) (writable.name.calm.append (.cons (by decide) writable.value.calm)))

theorem limit_piece_tame : Tame ['[', '《'] (limitPiece tag) :=
  Tame.angled (by decide) _ (limit_body_calm tag writable)

end Reading

theorem opens_limit : Opens limit '<' :=
  opens_bind _ _ '<' (opens_char '<')

section Others

-- What follows the operator of a condition is the value, and an equals sign begins no limit.
theorem limit_skips_condition (condition : Condition) (safe : SafeCondition condition)
    (clear : condition.comparison = .less → StateT.run defaultLimit condition.value.toList = none) :
    Skips limit (conditionPiece condition) := by
  refine fun rest => angled_misses_condition limit opens_limit condition safe rest (fun less => ?_) fun _ => ?_
  · exact limit_refused _ (default_limit_longer _ rest '》' (by decide) (by decide) (clear less))
  · refine limit_refused _ ?_
    exact stops_refuses isSettingSign defaultLimit default_limit_stops [] _ '=' (by simp) (by decide) (by decide)

theorem limit_skips_effect (effect : Effect) (safe : SafeEffect effect) : Skips limit (effectPiece effect) := by
  refine safe.tag_missed limit opens_limit fun rest => limit_refused _ ?_
  rw [effectBody, effectLead]
  cases effect.isAccumulative with
  | true => rfl
  | false =>
      have refused := stops_refuses isSettingSign defaultLimit default_limit_stops _ (effectTail effect ++ rest)
        effect.operation.sign safe.name_no_colon (by cases effect.operation <;> decide) (by cases effect.operation <;> decide)
      rw [effectCore]
      simpa using refused

end Others

section Rules

def limitTags (video : Video) : List (Bool × Override) :=
  video.minOverrides.map (fun override => (false, override)) ++ video.maxOverrides.map (fun override => (true, override))

def pushLimit (tag : Bool × Override) (video : Video) : Video :=
  if tag.1 then { video with maxOverrides := video.maxOverrides ++ [tag.2] }
  else { video with minOverrides := video.minOverrides ++ [tag.2] }

theorem limit_added (tag : Bool × Override) (writable : WritableLimit tag.2) (video : Video) :
    addLimit ⟨tag.1, tag.2.name.toList, tag.2.value.toList⟩ video = pushLimit tag video := by
  rw [addLimit, pushLimit, Mark.trimmedText, Mark.trimmedText, writable.name.trimmed, writable.value.trimmed,
    String.ofList_toList, String.ofList_toList]

theorem limits_pushed (source so : Video) : (limitTags source).foldl (fun video tag => pushLimit tag video) so =
    { so with
      minOverrides := so.minOverrides ++ source.minOverrides, maxOverrides := so.maxOverrides ++ source.maxOverrides } := by
  have least := Rule.collected (fun overrides so => { so with minOverrides := so.minOverrides ++ overrides } : _ → Video → Video)
    (by simp) (by simp) source.minOverrides so
  have most := Rule.collected (fun overrides so => { so with maxOverrides := so.maxOverrides ++ overrides } : _ → Video → Video)
    (by simp) (by simp) source.maxOverrides { so with minOverrides := so.minOverrides ++ source.minOverrides }
  rw [limitTags, List.foldl_append, List.foldl_map, List.foldl_map]
  exact (congrArg (fun so => source.maxOverrides.foldl (fun video override => pushLimit (true, override) video) so) least).trans
    most

theorem limits_front (source : Video) (ending : List Char) (node : NodeOf Video)
    (writable : ∀ tag ∈ limitTags source, WritableLimit tag.2) (tight : Tight ending) (nothing : limit.all ending = []) :
    (Rule.setEvery "default_override" limit fun limit => NodeOf.updateBody (addLimit limit)).apply
      ((limitTags source).flatMap limitPiece ++ ending, node) =
      .ok (ending, node.updateBody fun so => { so with
        minOverrides := so.minOverrides ++ source.minOverrides, maxOverrides := so.maxOverrides ++ source.maxOverrides }) := by
  have run := Rule.every_front limitPiece (fun tag => NodeOf.updateBody (pushLimit tag)) ending "default_override" limit
    (fun node limit => .ok (some (NodeOf.updateBody (addLimit limit) node)))
    (fun tag => ⟨tag.1, tag.2.name.toList, tag.2.value.toList⟩) (limitTags source) node tight nothing
    (fun tag member => ⟨List.cons_ne_nil _ _, tight_enclosed '<' '>' _ (by decide) (by decide),
      reads_limit tag (writable tag member)⟩)
    (fun tag member node => by rw [NodeOf.updateBody, limit_added tag (writable tag member)]; rfl)
  have inside : ∀ (tags : List (Bool × Override)) (node : NodeOf Video),
      tags.foldl (fun node tag => node.updateBody (pushLimit tag)) node =
        node.updateBody fun video => tags.foldl (fun video tag => pushLimit tag video) video := by
    intro tags
    induction tags with
    | nil => exact fun _ => rfl
    | cons tag tags ih => exact fun node => by rw [List.foldl_cons, ih]; rfl
  refine run.trans (congrArg (fun node => Except.ok (ending, node)) ?_)
  rw [inside]
  exact congrArg (fun change => node.updateBody change) (funext fun so => limits_pushed source so)

end Rules

end TaggedStory.Video
