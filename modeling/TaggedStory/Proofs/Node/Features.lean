import TaggedStory.Node.Video
import TaggedStory.Proofs.Tag.Decimals
/-!
The bracket tags of a video: how each of them is written, and how its rule takes it back.
-/
set_option autoImplicit false

namespace TaggedStory.Video

open Text Scanner Tag Mark Decimal

section Flags

def flagPiece (flag : Bool) (word : String) : List Char :=
  (tagIf flag word).toList

theorem flag_bracketed (flag : Bool) (word : String) (shape : word.toList = '[' :: (word.toList.tail.dropLast ++ [']']))
    (quiet : ∀ c ∈ word.toList.tail.dropLast, isOpening c = false ∧ isWide c = false) :
    Bracketed word (flagPiece flag word) :=
  bracketed_flag flag word shape quiet

-- The fields that the tag decides are still as they are without it.
theorem flag_step (name word : String) (flag : Bool) (put : Bool → Video → Video) (rest : List Char) (so : NodeOf Video)
    (nonempty : word.toList ≠ []) (tight : Tight rest) (absent : (Scanner.word word).first? rest = none)
    (fresh : put false so.body = so.body) :
    (flagBody name word (put true)).apply (flagPiece flag word ++ rest, so) = .ok (rest, so.updateBody (put flag)) := by
  refine Rule.first_tag _ _ _ _ rest () so _ tight ?_
  cases flag with
  | false => exact .inl ⟨rfl, absent, by rw [NodeOf.updateBody, fresh]⟩
  | true => exact .inr ⟨nonempty, reads_word word, rfl⟩

end Flags

section Values

-- A flag stands exactly when there is a text for its tag.
def Switched (flag : Bool) (text : String) : Prop :=
  flag = false ∧ text = "" ∨ flag = true ∧ Plain text

def valuedPiece (lead text : String) : List Char :=
  if text = "" then [] else lead.toList ++ (text.toList ++ [']'])

theorem switched_tag (flag : Bool) (lead text : String) (switched : Switched flag text) :
    (tagIf (flag && text ≠ "") (lead ++ text ++ "]")).toList = valuedPiece lead text := by
  rcases switched with ⟨off, empty⟩ | ⟨on, plain⟩
  · rw [off, empty]
    rfl
  · simp [on, plain.nonempty, tagIf, valuedPiece]

theorem switched_text (flag : Bool) (text : String) (switched : Switched flag text) : text = "" ∨ Plain text :=
  switched.elim (fun off => .inl off.2) fun on => .inr on.2

theorem valued_bracketed (lead text : String) (shape : lead.toList = '[' :: lead.toList.tail)
    (quiet : ∀ c ∈ lead.toList.tail, isOpening c = false ∧ isWide c = false) (either : text = "" ∨ Plain text) :
    Bracketed lead (valuedPiece lead text) := by
  rw [valuedPiece]
  by_cases empty : text = ""
  · rw [if_pos empty]
    exact bracketed_empty lead
  · rw [if_neg empty]
    exact bracketed_valued lead text.toList shape quiet (plain_quiet text (either.resolve_left empty))

theorem reads_valued_piece (word lead text : String) (joined : lead.toList = word.toList ++ [':']) (plain : Plain text) :
    valuedPiece lead text ≠ [] ∧ Reads (valued word) (valuedPiece lead text) text.toList := by
  have reads := reads_valued word text.toList plain.nonempty_list (plain.absent ']' (by decide))
  rw [valuedPiece, if_neg plain.nonempty, joined]
  exact ⟨by simp, by simpa using reads⟩

theorem plain_text_trimmed (text : String) (plain : Plain text) : trimmedText text.toList = text := by
  rw [trimmedText, plain.trimmed, String.ofList_toList]

theorem valued_step (name word lead text : String) (change : List Char → Video → Video) (put : Video → Video)
    (rest : List Char) (so : NodeOf Video) (joined : lead.toList = word.toList ++ [':']) (tight : Tight rest)
    (absent : (valued word).first? rest = none)
    (either : text = "" ∧ put so.body = so.body ∨ Plain text ∧ change text.toList so.body = put so.body) :
    (onBody name (valued word) change).apply (valuedPiece lead text ++ rest, so) = .ok (rest, so.updateBody put) := by
  refine Rule.first_tag _ _ _ _ rest text.toList so _ tight ?_
  rcases either with ⟨empty, fresh⟩ | ⟨plain, put⟩
  · exact .inl ⟨if_pos empty, absent, by rw [NodeOf.updateBody, fresh]⟩
  · obtain ⟨nonempty, reads⟩ := reads_valued_piece word lead text joined plain
    exact .inr ⟨nonempty, reads, by rw [NodeOf.updateBody, ← put]; rfl⟩

theorem switched_step (name word lead text : String) (flag : Bool) (put : Bool → String → Video → Video) (rest : List Char)
    (so : NodeOf Video) (joined : lead.toList = word.toList ++ [':']) (tight : Tight rest)
    (absent : (valued word).first? rest = none) (switched : Switched flag text) (fresh : put false "" so.body = so.body) :
    (onBody name (valued word) fun body => put true (trimmedText body)).apply (valuedPiece lead text ++ rest, so) =
      .ok (rest, so.updateBody (put flag text)) := by
  refine valued_step name word lead text _ _ rest so joined tight absent ?_
  rcases switched with ⟨off, empty⟩ | ⟨on, plain⟩
  · rw [off, empty]
    exact .inl ⟨rfl, fresh⟩
  · rw [on, plain_text_trimmed text plain]
    exact .inr ⟨plain, rfl⟩

end Values

section Time

inductive Timed (video : Video) : Prop where
  | never (off : video.hasRandomTime = false) (low : video.randomTimeMin = .real .zero)
      (high : video.randomTimeMax = .real .zero)
  | between (low high : Nat) (on : video.hasRandomTime = true) (least : video.randomTimeMin = .whole low)
      (most : video.randomTimeMax = .whole high) (small : low ≤ 10 ^ 300)
      (short : high ≤ 10 ^ 300)

def timePiece (video : Video) : List Char :=
  match randomTimeTag video with
  | .ok tag => tag.toList
  | .error _ => []

def boundsBody (low high : Nat) : List Char :=
  natText low ++ '-' :: (natText high ++ [')'])

theorem bound_written (n : Nat) : boundText (.whole n) = .ok (String.ofList (natText n)) := by
  cases n with
  | zero => rfl
  | succ n =>
      have filled : Number.isZero (.whole ((n + 1 : Nat) : Int)) = false := rfl
      rw [boundText, filled, if_neg Bool.false_ne_true, int_text_nat]

theorem bounds_quiet (low high : Nat) : ∀ c ∈ boundsBody low high, isOpening c = false ∧ isWide c = false := by
  intro c member
  simp only [boundsBody, List.mem_append, List.mem_cons, List.not_mem_nil, or_false] at member
  rcases member with member | rfl | member | rfl
  · exact digit_quiet c (nat_text_digits low c member)
  · decide
  · exact digit_quiet c (nat_text_digits high c member)
  · decide

theorem time_written (video : Video) (timed : Timed video) :
    randomTimeTag video = .ok (String.ofList (timePiece video)) ∧ Bracketed "[随机时间事件(" (timePiece video) := by
  cases timed with
  | never off =>
      have written : randomTimeTag video = .ok "" := by rw [randomTimeTag, off, if_neg Bool.false_ne_true]
      rw [timePiece, written]
      exact ⟨rfl, bracketed_empty _⟩
  | between low high on least most =>
      have written : randomTimeTag video = .ok ("[随机时间事件(" ++ String.ofList (natText low) ++ "-" ++
          String.ofList (natText high) ++ ")]") := by
        rw [randomTimeTag, on, if_pos rfl, least, most, bound_written, bound_written]
        rfl
      have shape : timePiece video = "[随机时间事件(".toList ++ (boundsBody low high ++ [']']) := by
        simp [timePiece, written, boundsBody]
      refine ⟨?_, ?_⟩
      · rw [written, timePiece, written, String.ofList_toList]
      · rw [shape]
        exact bracketed_valued _ _ (by decide) (by decide) (bounds_quiet low high)

theorem reads_time (low high : Nat) :
    Reads randomTime ("[随机时间事件(".toList ++ (boundsBody low high ++ [']'])) (natText low, natText high) := by
  intro rest
  have first := run_digits (natText low) '-' (natText high ++ ")]".toList ++ rest) (nat_text_nonempty low)
    (nat_text_digits low) (by decide)
  have second := run_digits (natText high) ')' (']' :: rest) (nat_text_nonempty high) (nat_text_digits high) (by decide)
  have shape : "[随机时间事件(".toList ++ (boundsBody low high ++ [']']) ++ rest = "[随机时间事件".toList ++
      '(' :: (natText low ++ '-' :: (natText high ++ ")]".toList ++ rest)) := by simp [boundsBody]
  rw [shape]
  refine (bind_succeeds _ _ _ _ _).mpr ⟨(), _, reads_word _ _, ?_⟩
  refine (bind_succeeds _ _ _ _ _).mpr ⟨none, _, rfl, ?_⟩
  refine (bind_succeeds _ _ _ _ _).mpr ⟨(), _, rfl, ?_⟩
  refine (bind_succeeds _ _ _ _ _).mpr ⟨_, _, first, ?_⟩
  refine (bind_succeeds _ _ _ _ _).mpr ⟨(), natText high ++ ')' :: ']' :: rest, ?_, ?_⟩
  · rw [List.append_assoc]
    rfl
  refine (bind_succeeds _ _ _ _ _).mpr ⟨_, _, second, ?_⟩
  exact (bind_succeeds _ _ _ _ _).mpr ⟨(), rest, rfl, rfl⟩

def putTime (video so : Video) : Video :=
  { so with hasRandomTime := video.hasRandomTime, randomTimeMin := video.randomTimeMin, randomTimeMax := video.randomTimeMax }

theorem bound_read (n : Nat) (short : (n : Int).natAbs ≤ 10 ^ 300) (fallback : Number) :
    numberFrom (natText n) fallback = .ok (.whole n) := by
  rw [numberFrom, ← int_text_nat, read_number_int n fallback short]

theorem time_step (video : Video) (timed : Timed video) (rest : List Char) (so : NodeOf Video) (tight : Tight rest)
    (absent : randomTime.first? rest = none)
    (fresh : putTime {} so.body = so.body) :
    (Rule.first "random_time" randomTime setRandomTime).apply (timePiece video ++ rest, so) =
      .ok (rest, so.updateBody (putTime video)) := by
  cases timed with
  | never off low high =>
      have written : randomTimeTag video = .ok "" := by rw [randomTimeTag, off, if_neg Bool.false_ne_true]
      have unset : putTime video = putTime {} := by
        funext so
        rw [putTime, off, low, high]
        rfl
      refine Rule.first_tag _ _ _ _ rest ([], []) so _ tight (.inl ⟨by rw [timePiece, written]; rfl, absent, ?_⟩)
      rw [unset, NodeOf.updateBody, fresh]
  | between low high on least most small short =>
      have shape : timePiece video = "[随机时间事件(".toList ++ (boundsBody low high ++ [']']) := by
        simp [timePiece, randomTimeTag, on, least, most, bound_written, boundsBody, bind, Except.bind, pure, Except.pure]
      have set : putTime video = fun so =>
          { so with hasRandomTime := true, randomTimeMin := .whole low, randomTimeMax := .whole high } := by
        funext so
        rw [putTime, on, least, most]
      have taken : setRandomTime so (natText low, natText high) = .ok (some (so.updateBody (putTime video))) := by
        simp only [setRandomTime, bound_read low small, bound_read high short, bind, Except.bind]
        rw [set]
        rfl
      rw [shape]
      exact Rule.first_tag _ _ _ _ rest _ so _ tight (.inr ⟨by simp, reads_time low high, taken⟩)

end Time

section Dialogs

inductive Spoken (video : Video) : Prop where
  | silent (off : video.isDialog = false) (speaker : video.dialogSpeaker = "") (text : video.dialogText = "")
      (audio : video.dialogAudioPath = "")
  | speech (on : video.isDialog = true)
      (speaker : video.dialogSpeaker = "" ∨ Plain video.dialogSpeaker ∧ ')' ∉ video.dialogSpeaker.toList)
      (text : Plain video.dialogText) (noColon : ':' ∉ video.dialogText.toList) (audio : Plain video.dialogAudioPath)

def dialogPiece (video : Video) : List Char :=
  (dialogTag video).toList

def speakerBody (name : String) : List Char :=
  if name = "" then [] else '(' :: (name.toList ++ [')'])

def dialogBody (video : Video) : List Char :=
  speakerBody video.dialogSpeaker ++ ':' :: (video.dialogText.toList ++ ':' :: video.dialogAudioPath.toList)

theorem dialog_written (video : Video) (on : video.isDialog = true) (text : video.dialogText ≠ "")
    (audio : video.dialogAudioPath ≠ "") : dialogPiece video = "[对话框".toList ++ (dialogBody video ++ [']']) := by
  by_cases empty : video.dialogSpeaker = "" <;>
    simp [dialogPiece, dialogTag, dialogBody, speakerBody, on, text, audio, empty]

theorem dialog_quiet (video : Video) (speaker : video.dialogSpeaker = "" ∨ Plain video.dialogSpeaker)
    (text : Plain video.dialogText) (audio : Plain video.dialogAudioPath) :
    ∀ c ∈ dialogBody video, isOpening c = false ∧ isWide c = false := by
  intro c member
  rw [dialogBody, List.mem_append, List.mem_cons, List.mem_append, List.mem_cons] at member
  rcases member with member | rfl | member | rfl | member
  · rw [speakerBody] at member
    by_cases empty : video.dialogSpeaker = ""
    · rw [if_pos empty] at member
      cases member
    · rw [if_neg empty, List.mem_cons, List.mem_append, List.mem_singleton] at member
      rcases member with rfl | member | rfl
      · decide
      · exact plain_quiet _ (speaker.resolve_left empty) c member
      · decide
  · decide
  · exact plain_quiet _ text c member
  · decide
  · exact plain_quiet _ audio c member

theorem dialog_bracketed (video : Video) (spoken : Spoken video) : Bracketed "[对话框" (dialogPiece video) := by
  cases spoken with
  | silent off =>
      have none : dialogPiece video = [] := by simp [dialogPiece, dialogTag, off]
      rw [none]
      exact bracketed_empty _
  | speech on speaker text _ audio =>
      rw [dialog_written video on text.nonempty audio.nonempty]
      exact bracketed_valued _ _ (by decide) (by decide) (dialog_quiet video (speaker.imp_right And.left) text audio)

theorem run_speaker (name : String) (either : name = "" ∨ ')' ∉ name.toList) (rest : List Char) :
    ∃ found, StateT.run (Scanner.optional speaker) (speakerBody name ++ ':' :: rest) = some (found, ':' :: rest) ∧
      found.getD [] = name.toList := by
  rw [speakerBody]
  by_cases empty : name = ""
  · rw [if_pos empty, empty]
    exact ⟨none, rfl, rfl⟩
  · have accepted : ∀ c ∈ name.toList, decide (c ≠ ')') = true := fun c member =>
      decide_eq_true fun same => either.resolve_left empty (same ▸ member)
    have inner := run_many _ name.toList ')' (':' :: rest) accepted (by decide)
    have read : StateT.run speaker ('(' :: (name.toList ++ ')' :: ':' :: rest)) = some (name.toList, ':' :: rest) := by
      refine (bind_succeeds _ _ _ _ _).mpr ⟨(), _, rfl, ?_⟩
      refine (bind_succeeds _ _ _ _ _).mpr ⟨_, _, inner, ?_⟩
      exact (bind_succeeds _ _ _ _ _).mpr ⟨(), _, rfl, rfl⟩
    rw [if_neg empty, List.cons_append, List.append_assoc, List.singleton_append]
    exact ⟨some name.toList, (optional_succeeds _ _ _ _).mpr (.inl ⟨_, rfl, read⟩), rfl⟩

theorem reads_dialog (video : Video) (speaker : video.dialogSpeaker = "" ∨ ')' ∉ video.dialogSpeaker.toList)
    (text : Plain video.dialogText) (noColon : ':' ∉ video.dialogText.toList) (audio : Plain video.dialogAudioPath) :
    Reads dialog ("[对话框".toList ++ (dialogBody video ++ [']']))
      ⟨video.dialogSpeaker.toList, video.dialogText.toList, video.dialogAudioPath.toList⟩ := by
  intro rest
  obtain ⟨name, spoken, named⟩ := run_speaker video.dialogSpeaker speaker
    (video.dialogText.toList ++ ':' :: (video.dialogAudioPath.toList ++ ']' :: rest))
  have letters : ∀ c ∈ video.dialogText.toList, isDialogText c = true := by
    intro c member
    have narrow : c ≠ ':' := fun same => noColon (same ▸ member)
    have wide : c ≠ '：' := fun same => by
      have half := text.halfWidth c member
      rw [same] at half
      exact absurd half (by decide)
    have closing : c ≠ ']' := fun same => text.absent ']' (by decide) (same ▸ member)
    simp [isDialogText, narrow, wide, closing]
  have said := run_many1 isDialogText video.dialogText.toList ':' (video.dialogAudioPath.toList ++ ']' :: rest)
    text.nonempty_list letters (by decide)
  have heard := reads_up_to ']' video.dialogAudioPath.toList audio.nonempty_list (audio.absent ']' (by decide)) rest
  rw [List.append_assoc, List.singleton_append] at heard
  have shape : "[对话框".toList ++ (dialogBody video ++ [']']) ++ rest = "[对话框".toList ++ (speakerBody video.dialogSpeaker ++
      ':' :: (video.dialogText.toList ++ ':' :: (video.dialogAudioPath.toList ++ ']' :: rest))) := by simp [dialogBody]
  rw [shape]
  refine (bind_succeeds _ _ _ _ _).mpr ⟨(), _, reads_word _ _, ?_⟩
  refine (bind_succeeds _ _ _ _ _).mpr ⟨name, _, spoken, ?_⟩
  refine (bind_succeeds _ _ _ _ _).mpr ⟨(), _, rfl, ?_⟩
  refine (bind_succeeds _ _ _ _ _).mpr ⟨_, _, said, ?_⟩
  refine (bind_succeeds _ _ _ _ _).mpr ⟨(), _, rfl, ?_⟩
  refine (bind_succeeds _ _ _ _ _).mpr ⟨_, _, heard, ?_⟩
  rw [named]
  rfl

def putDialog (video so : Video) : Video :=
  { so with
    isDialog := video.isDialog, dialogSpeaker := video.dialogSpeaker, dialogText := video.dialogText
    dialogAudioPath := video.dialogAudioPath }

theorem dialog_step (video : Video) (spoken : Spoken video) (rest : List Char) (so : NodeOf Video) (tight : Tight rest)
    (absent : dialog.first? rest = none) (fresh : putDialog {} so.body = so.body) :
    (onBody "dialog" dialog setDialog).apply (dialogPiece video ++ rest, so) =
      .ok (rest, so.updateBody (putDialog video)) := by
  cases spoken with
  | silent off speaker text audio =>
      have unset : putDialog video = putDialog {} := by
        funext so
        rw [putDialog, off, speaker, text, audio]
        rfl
      have none : dialogPiece video = [] := by simp [dialogPiece, dialogTag, off]
      refine Rule.first_tag _ _ _ _ rest ⟨[], [], []⟩ so _ tight (.inl ⟨none, absent, ?_⟩)
      rw [unset, NodeOf.updateBody, fresh]
  | speech on speaker text noColon audio =>
      have name : trimmedText video.dialogSpeaker.toList = video.dialogSpeaker := by
        rcases speaker with empty | ⟨plain, _⟩
        · rw [empty]
          rfl
        · exact plain_text_trimmed _ plain
      have set : setDialog ⟨video.dialogSpeaker.toList, video.dialogText.toList, video.dialogAudioPath.toList⟩ =
          putDialog video := by
        funext so
        rw [setDialog, name, plain_text_trimmed _ text, plain_text_trimmed _ audio, putDialog, on]
      rw [dialog_written video on text.nonempty audio.nonempty]
      refine Rule.first_tag _ _ _ _ rest _ so _ tight (.inr ⟨by simp, ?_, by rw [← set]⟩)
      exact reads_dialog video (speaker.imp_right And.right) text noColon audio

end Dialogs

end TaggedStory.Video
