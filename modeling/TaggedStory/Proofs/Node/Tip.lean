import TaggedStory.Proofs.Node.Rereading
import TaggedStory.Proofs.Tag.Ads
import TaggedStory.Proofs.Text.Occurrence
/-!
Tips are free text. A tip keeps brackets, marks of tips and line feeds in its text, and is read back from what it
is written as, provided that the text has no mark of its own of the two that are written after it.
-/
set_option autoImplicit false

namespace TaggedStory.Tip

open Text Tag Mark Scanner

structure Writable (node : NodeOf Tip) : Prop where
  header : node.header = { name := orElse node.body.text "提示", title := orElse node.body.text "提示" }
  trimmed : trim node.body.text.toList = node.body.text.toList
  half : ∀ c ∈ node.body.text.toList, isWide c = false
  unmarked : ad.first? node.body.text.toList = none
  unreset : occurs resetWord.toList node.body.text.toList = false
  ad : node.body.requireAd = false ∧ node.body.adType = "" ∨
    node.body.requireAd = true ∧ node.body.adType ∈ ["fullscreen", "rewarded", "splash"]

def resetPiece (tip : Tip) : List Char :=
  (if tip.isReset then resetWord else "").toList

-- All that is written after the mark.
def written (tip : Tip) : List Char :=
  tip.text.toList ++ ((adMarkText tip.requireAd tip.adType false).toList ++ resetPiece tip)

theorem tag_text_written (tip : Tip) : (tagText tip).toList = tipWord.toList ++ written tip := by
  simp only [tagText, String.toList_append, written, resetPiece, List.append_assoc]

theorem reset_tight (tip : Tip) : Tight (resetPiece tip) := by
  rw [resetPiece]
  cases tip.isReset with
  | false => exact tight_nil
  | true => exact ⟨by decide, by decide⟩

theorem reset_half (tip : Tip) : ∀ c ∈ resetPiece tip, isWide c = false := by
  rw [resetPiece]
  cases tip.isReset <;> decide

theorem no_ad_in_reset (tip : Tip) : ad.first? (resetPiece tip) = none := by
  have unopened : '《' ∉ resetPiece tip := by
    rw [resetPiece]
    cases tip.isReset <;> decide
  exact first_none ad _ (misses_unopened ad '《' opens_ad _ [] unopened)

theorem reset_stops (tip : Tip) : ∀ c ∈ (resetPiece tip).head?, c ≠ '》' ∧ isAdSign c = false := by
  rw [resetPiece]
  cases tip.isReset <;> decide

theorem reset_taken (tip : Tip) (lacks : occurs resetWord.toList tip.text.toList = false) :
    occurs resetWord.toList (tip.text.toList ++ resetPiece tip) = tip.isReset ∧
      removeFirst resetWord.toList (tip.text.toList ++ resetWord.toList) = tip.text.toList := by
  have absent : ¬ resetWord.toList <:+: tip.text.toList := by
    rw [← occurs_inside, lacks]
    exact Bool.false_ne_true
  refine ⟨?_, ?_⟩
  · rw [resetPiece]
    cases tip.isReset with
    | false => rwa [if_neg Bool.false_ne_true, String.toList_empty, List.append_nil]
    | true =>
        rw [if_pos rfl, occurs_inside]
        exact (List.suffix_append _ _).isInfix
  · have missed := misses_word resetWord tip.text.toList (resetWord.toList ++ []) absent (by decide)
    have removed := remove_first_misses resetWord _ _ missed
    rwa [remove_first_front _ _ (by decide), List.append_nil, List.append_nil] at removed

theorem body_read (c : Char) (more : List Char) :
    body.first? (tipWord.toList ++ c :: more) = some ⟨tipWord.toList ++ c :: more, c :: more⟩ := by
  have everything : StateT.run (many1 fun _ => true) (c :: more) = some (c :: more, []) := by
    rw [many1_many _ _ _ rfl]
    change some ((c :: more).takeWhile fun _ => true, (c :: more).dropWhile fun _ => true) = _
    simp
  have run : StateT.run body (tipWord.toList ++ c :: more) = some (c :: more, []) :=
    (bind_succeeds _ _ _ _ _).mpr ⟨(), _, (word_succeeds _ _ _ _).mpr rfl, everything⟩
  have here : here? body (tipWord.toList ++ c :: more) = some ⟨tipWord.toList ++ c :: more, c :: more⟩ := by
    rw [here?, run]
    simp only [List.length_nil, Nat.sub_zero, List.take_length]
  rw [show tipWord.toList = '[' :: tipWord.toList.tail from rfl, List.cons_append] at here ⊢
  rw [first?, here]

section Reading

variable (node : NodeOf Tip) (writable : Writable node)

include writable

theorem body_set : setBody (written node.body) {} = node.body := by
  obtain ⟨header, text, required, type, reset⟩ := node
  have tight := trim_fixed_tight _ writable.trimmed
  have taken := ad_taken required type writable.ad _ _ writable.unmarked (no_ad_in_reset ⟨text, required, type, reset⟩)
    (reset_stops _) (tight_append _ _ tight (reset_tight _))
  obtain ⟨seen, left⟩ := reset_taken ⟨text, required, type, reset⟩ writable.unreset
  have whole : trimmedText text.toList = text := by rw [trimmedText, writable.trimmed, String.ofList_toList]
  have marked : (if required = true then { requireAd := true, adType := type } else ({} : Tip)) =
      { requireAd := required, adType := type } := by
    rcases writable.ad with ⟨rfl, rfl⟩ | ⟨rfl, _⟩ <;> rfl
  rw [setBody, written, taken]
  simp only [seen, marked]
  cases reset with
  | false => rw [if_neg Bool.false_ne_true, resetPiece, if_neg Bool.false_ne_true, String.toList_empty, List.append_nil, whole]
  | true =>
      rw [if_pos rfl, resetPiece, if_pos rfl, left, whole]

theorem rules_read (header : Header) :
    ∃ remainder, Rule.applyAll rules ((tagText node.body).toList, ⟨header, {}⟩) = .ok (remainder, ⟨header, node.body⟩) := by
  have set := body_set node writable
  rw [tag_text_written]
  cases rest : written node.body with
  | nil =>
      -- The body rule needs something after the mark, and no other rule finds anything in the mark.
      rw [rest] at set
      refine ⟨tipWord.toList, ?_⟩
      rw [← set, List.append_nil]
      rfl
  | cons c more =>
      rw [rest] at set
      have found := Rule.first_found "tip" body (fun node value => .ok (some (NodeOf.updateBody (setBody value) node)))
        _ ⟨header, {}⟩ _ _ (body_read c more) rfl
      have taken := Rule.take_front (tipWord.toList ++ c :: more) [] (by simp) tight_nil
      rw [List.append_nil] at taken
      rw [taken] at found
      refine ⟨[], (Rule.apply_all_cons _ _ _ _ found).trans ?_⟩
      rw [NodeOf.updateBody, set]
      rfl

theorem text_half : ∀ c ∈ (tagText node.body).toList, isWide c = false := by
  rw [tag_text_written, written]
  intro c member
  rcases List.mem_append.mp member with word | member
  · exact (show ∀ c ∈ tipWord.toList, isWide c = false by decide) c word
  rcases List.mem_append.mp member with text | member
  · exact writable.half c text
  rcases List.mem_append.mp member with mark | reset
  · exact (ad_mark_tame _ _ writable.ad).half c mark
  · exact reset_half node.body c reset

omit writable in
theorem classified : Kind.ofMarks (tagText node.body).toList = .tip := by
  have present : occurs tipWord.toList (tagText node.body).toList = true := by
    rw [occurs_inside, tag_text_written]
    exact (List.prefix_append _ _).isInfix
  simp [Kind.ofMarks, Kind.marks, present]

end Reading

theorem tip_reads_back (node : NodeOf Tip) (writable : Writable node) (isStart : Bool) :
    ∃ text, Node.text (node.mapBody .tip) isStart = .ok text ∧
      ∀ kind ∈ [none, some Kind.tip], Node.parse text kind textEntity {} = .ok (node.mapBody .tip) := by
  refine ⟨tagText node.body, rfl, ?_⟩
  refine Node.parse_again .tip _ {} _ (text_half node writable) (classified node) ?_
  obtain ⟨remainder, read⟩ := rules_read node writable {}
  have finished : finish ⟨{}, node.body⟩ = node := by
    rw [finish, NodeOf.mapHeader, named, ← writable.header]
  simp only [Node.parseAs, Node.parseWith, read, Except.map, finished]

def notice : NodeOf Tip := {
  header := { name := "留意[提示]《AD:1234》[重置到CP点\n《AD", title := "留意[提示]《AD:1234》[重置到CP点\n《AD" }
  body := { text := "留意[提示]《AD:1234》[重置到CP点\n《AD", requireAd := true, adType := "fullscreen", isReset := true } }

theorem notice_writable : Writable notice :=
  ⟨rfl, by decide, by decide, by decide, by decide, .inr ⟨rfl, by decide⟩⟩

theorem notice_reads_back : Writable notice ∧ ∃ text, Node.text (notice.mapBody .tip) true = .ok text ∧
    ∀ kind ∈ [none, some Kind.tip], Node.parse text kind textEntity {} = .ok (notice.mapBody .tip) :=
  ⟨notice_writable, tip_reads_back notice notice_writable true⟩

end TaggedStory.Tip
