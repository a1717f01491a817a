import TaggedStory.Proofs.Document.LongCount
/-!
Background music that was read from any text: a whole volume comes back with the same value.
-/
set_option autoImplicit false

namespace TaggedStory.Decimal

theorem double_same_comm (a b : Double) : a.same b = b.same a := by
  cases a <;> cases b <;> simp only [Double.same, Double.aligned, Int.min_comm, Bool.beq_comm]

theorem number_same_comm (a b : Number) : a.same b = b.same a := by
  cases a <;> cases b <;> simp only [Number.same, double_same_comm]
  exact Bool.eq_iff_iff.mpr (by rw [beq_iff_eq, beq_iff_eq, eq_comm])

end TaggedStory.Decimal

namespace TaggedStory.Bgm

open Text Tag Mark Scanner Decimal

def voiced (header : Header) (volume : Number) : NodeOf Bgm :=
  ⟨header, { volume := volume }⟩

-- A volume that is full or was read from an amount.
def Heard (volume : Number) : Prop :=
  volume = fullVolume ∨ ∃ amount, (∀ c ∈ amount, isAmountSign c = true) ∧ readNumber amount fullVolume = .ok volume

def Voiced (header : Header) (node : NodeOf Bgm) : Prop :=
  ∃ volume, node = voiced header volume ∧ Heard volume

theorem volume_succeeds (text rest amount : List Char) (done : StateT.run volumeAmount text = some (amount, rest)) :
    ∃ gap more, text = "<S:BGM音量".toList ++ (gap ++ '=' :: (more ++ (amount ++ '>' :: rest))) ∧
      (∀ c ∈ gap ++ more, isBlank c = true) ∧ ∀ c ∈ amount, isAmountSign c = true := by
  rw [volumeAmount] at done
  obtain ⟨_, worded, done⟩ := word_then done
  obtain ⟨gap, _, gapShape, gapBlank, done⟩ := blanks_then done
  obtain ⟨_, equal, done⟩ := char_then done
  obtain ⟨more, _, moreShape, moreBlank, done⟩ := blanks_then done
  obtain ⟨found, _, shape, _, signs, done⟩ := many1_then done
  obtain ⟨_, closing, done⟩ := char_then done
  obtain ⟨rfl, rfl⟩ := (pure_succeeds _ _ _ _).mp done
  refine ⟨gap, more, by rw [worded, gapShape, equal, moreShape, shape, closing], fun c member => ?_, signs⟩
  exact (List.mem_append.mp member).elim (gapBlank c) (moreBlank c)

theorem volume_encloses : Encloses volumeAmount '<' '>' (· ≠ []) := by
  intro text rest amount done
  obtain ⟨gap, more, shape, blank, signs⟩ := volume_succeeds text rest amount done
  refine ⟨"S:BGM音量".toList ++ (gap ++ '=' :: (more ++ amount)), ?_, fun member => ?_, List.cons_ne_nil _ _⟩
  · rw [shape, show "<S:BGM音量".toList = '<' :: "S:BGM音量".toList from rfl]
    simp only [List.append_assoc, List.cons_append]
  · have blankOrSign : '>' ∈ gap ++ more ∨ '>' ∈ amount := by
      have outside : '>' ∉ "S:BGM音量".toList := by decide
      simpa [outside, or_assoc] using member
    rcases blankOrSign with inside | inside
    · exact absurd (blank '>' inside) (by decide)
    · exact absurd (signs '>' inside) (by decide)

theorem opens_volume : Opens volumeAmount '<' :=
  opens_bind _ _ '<' (opens_word "<S:BGM音量" '<' (by decide))

theorem rules_cut : ∀ rule ∈ rules, rule.Cuts := by
  simp only [rules, List.forall_mem_cons]
  exact ⟨Rule.cuts_first opens_ad (by decide), Rule.cuts_first (opens_word startWord '[' (by decide)) (by decide),
    Rule.cuts_first (opens_word bgmWord '[' (by decide)) (by decide), Rule.cuts_first opens_volume (by decide),
    List.forall_mem_nil _⟩

theorem rules_uphold (raw : List Char) (header : Header) : ∀ rule ∈ rules, rule.Upholds raw (Voiced header) := by
  simp only [rules, List.forall_mem_cons]
  refine ⟨Rule.upholds_drop, Rule.upholds_drop, Rule.upholds_drop, Rule.upholds_first ?_, List.forall_mem_nil _⟩
  rintro text _ found ⟨_, rest, _, here⟩ _ changed ⟨_, rfl, _⟩ accepted
  obtain ⟨after, run⟩ := here_run volumeAmount rest found here
  obtain ⟨_, _, _, _, signs⟩ := volume_succeeds rest after found.value run
  obtain ⟨volume, read, same⟩ := (attempt_map_ok _ _ _).mp accepted
  exact ⟨volume, (Option.some.inj same).symm, .inr ⟨found.value, signs, number_from_read _ _ _ read⟩⟩

theorem rules_stop : ∀ rule ∈ rules, rule.Faults LongNumber := by
  simp only [rules, List.forall_mem_cons]
  refine ⟨Rule.faults_set, Rule.faults_set, Rule.faults_set, Rule.faults_first ?_, List.forall_mem_nil _⟩
  rintro text found ⟨_, rest, _, here⟩ record fault stopped
  obtain ⟨after, run⟩ := here_run volumeAmount rest found here
  obtain ⟨_, _, _, _, signs⟩ := volume_succeeds rest after found.value run
  rw [attempt_map_stops] at stopped
  exact number_from_stops found.value signs _ fault stopped

def volumePiece (most : Nat) : List Char :=
  ("<S:BGM音量=" ++ String.ofList (natText most) ++ ">").toList

theorem volume_shape (most : Nat) : volumePiece most = "<S:BGM音量=".toList ++ (natText most ++ ['>']) := by
  have letters : (String.ofList (natText most)).toList = natText most := String.toList_ofList
  rw [volumePiece, String.toList_append, String.toList_append, letters, List.append_assoc]
  rfl

theorem reads_volume (most : Nat) : volumeAmount.Reads (volumePiece most) (natText most) := by
  intro rest
  have shape : volumePiece most ++ rest = "<S:BGM音量".toList ++ '=' :: (natText most ++ '>' :: rest) := by
    rw [volume_shape, show "<S:BGM音量=".toList = "<S:BGM音量".toList ++ ['='] from rfl]
    generalize "<S:BGM音量".toList = lead
    simp
  have solid : StateT.run blanks (natText most ++ '>' :: rest) = some ((), natText most ++ '>' :: rest) := by
    have digits := nat_text_digits most
    cases letters : natText most with
    | nil => exact absurd letters (nat_text_nonempty most)
    | cons c more =>
        rw [letters] at digits
        exact run_blanks c _ (digit_solid c (digits c List.mem_cons_self))
  have amount := run_many1 isAmountSign (natText most) '>' rest (nat_text_nonempty most)
    (fun c member => by rw [isAmountSign, digit_is_digit c (nat_text_digits most c member), Bool.true_or]) (by decide)
  rw [shape, volumeAmount]
  refine (bind_succeeds _ _ _ _ _).mpr ⟨(), _, reads_word "<S:BGM音量" _, ?_⟩
  refine (bind_succeeds _ _ _ _ _).mpr ⟨(), _, run_blanks '=' _ (by decide), ?_⟩
  refine (bind_succeeds _ _ _ _ _).mpr ⟨(), _, (char_succeeds '=' _ _ _).mpr rfl, ?_⟩
  refine (bind_succeeds _ _ _ _ _).mpr ⟨(), _, solid, ?_⟩
  refine (bind_succeeds _ _ _ _ _).mpr ⟨natText most, _, amount, ?_⟩
  exact (bind_succeeds _ _ _ _ _).mpr ⟨(), rest, (char_succeeds '>' _ _ _).mpr rfl, rfl⟩

-- The tag of a volume, and the volume that is read from it.
inductive Tagged (volume : Number) : List Char → Number → Prop where
  | full (same : volume.same fullVolume = true) : Tagged volume [] fullVolume
  | amount (most : Nat) (other : volume.same fullVolume = false) (differs : (Number.whole most).same fullVolume = false)
      (same : (Number.whole most).same volume = true) (spelled : volume.text = String.ofList (natText most))
      (read : readNumber (natText most) fullVolume = .ok (.whole most)) : Tagged volume (volumePiece most) (.whole most)

theorem heard_tagged (volume : Number) (heard : Heard volume) (value : Int) (whole : (Number.whole value).same volume = true) :
    ∃ tag again, Tagged volume tag again := by
  cases full : volume.same fullVolume with
  | true => exact ⟨_, _, .full full⟩
  | false =>
      rcases heard with rfl | ⟨amount, signs, read⟩
      · exact absurd full (by decide)
      · rcases amount_again amount signs fullVolume volume read value whole with rfl | ⟨most, stands, same, spelled, back⟩
        · exact absurd full (by decide)
        · refine ⟨_, _, .amount most full ?_ same spelled (back fullVolume)⟩
          rcases stands with rfl | rfl
          · exact full
          · -- A whole number that is the full volume has the double of the full volume.
            have one : (Double.ofInt 1).toInt? = some 1 := by decide
            change ((Double.ofInt 1).toInt? == some (most : Int)) = false
            rw [one]
            by_contra equal
            have unit : 1 = (most : Int) := by simpa using equal
            rw [← unit] at full
            exact absurd full (by decide)

section Tagged

variable {volume again : Number} {tag : List Char} (tagged : Tagged volume tag again)

include tagged

theorem tagged_same : again.same volume = true := by
  cases tagged with
  | full same => rwa [number_same_comm]
  | amount most other differs same spelled read => exact same

theorem tagged_text (bgm : Bgm) (own : bgm.volume = volume) :
    (tagText bgm).toList = bgmWord.toList ++ (tag ++ bgm.audioFile.toList) := by
  rw [tagText, own]
  cases tagged with
  | full same =>
      rw [if_pos same, String.toList_append, String.toList_append]
      rfl
  | amount most other differs same spelled read =>
      rw [if_neg (by rw [other]; exact Bool.false_ne_true), spelled, String.toList_append, String.toList_append, List.append_assoc]
      rfl

theorem again_text (bgm : Bgm) (own : bgm.volume = again) :
    (tagText bgm).toList = bgmWord.toList ++ (tag ++ bgm.audioFile.toList) := by
  cases tagged with
  | full same => exact tagged_text (.full (show fullVolume.same fullVolume = true by decide)) bgm own
  | amount most other differs same spelled read =>
      exact tagged_text (.amount most differs differs (by simp [Number.same]) (by rw [Number.text, int_text_nat]) read) bgm own

theorem tagged_tame : Tame ['[', '《'] tag := by
  cases tagged with
  | full same => exact Tame.nil
  | amount most other differs same spelled read =>
      have digits := nat_text_digits most
      have each : ∀ c ∈ "S:BGM音量=".toList, c ∉ ['[', '《'] ∧ isWide c = false := by decide
      have quiet : ∀ c ∈ "S:BGM音量=".toList ++ natText most, c ∉ ['[', '《'] ∧ isWide c = false := by
        intro c member
        rcases List.mem_append.mp member with member | member
        · exact each c member
        · obtain ⟨closed, half⟩ := digit_quiet c (digits c member)
          refine ⟨fun sign => ?_, half⟩
          have opening : ∀ sign ∈ ['[', '《'], isOpening sign = true := by decide
          rw [opening c sign] at closed
          cases closed
      rw [volume_shape]
      exact Tame.enclosed '<' '>' ("S:BGM音量=".toList ++ natText most) (by decide) (by decide) (by decide)
        (fun c member => (quiet c member).1) fun c member => (quiet c member).2

end Tagged

section Written

variable {volume again : Number} {tag : List Char} (tagged : Tagged volume tag again) {told : List Char} (clear : Clean told)

include tagged clear

theorem ad_absent : ad.first? (bgmWord.toList ++ (tag ++ told)) = none := by
  refine first_none _ _ ((misses_append _ _ _ _).mpr ⟨?_, (misses_append _ _ _ _).mpr ⟨?_, ?_⟩⟩)
  · exact misses_unopened _ '《' opens_ad _ _ (by decide)
  · exact misses_unopened _ '《' opens_ad _ _ ((tagged_tame tagged).absent '《' (by simp))
  · exact clear.misses ad ('《', '》') (by decide) _ ad_filled fun _ filled => filled

theorem mark_absent (mark : String) (bracketed : IsMark mark) (clashes : clash mark.toList bgmWord.toList = true) :
    (word mark).first? (bgmWord.toList ++ (tag ++ told)) = none := by
  have sign := is_mark_opens mark bracketed
  have skips := bracketed_skips _ _ (bracketed_literal bgmWord (by decide) (by decide)) (word mark) (opens_word mark '[' sign)
    (begins_refuses _ mark (begins_word mark) [bgmWord] (by simpa using clashes) _ (by simp))
  refine first_none _ _ ((misses_append _ _ _ _).mpr ⟨skips _, (misses_append _ _ _ _).mpr ⟨?_, ?_⟩⟩)
  · exact misses_unopened _ '[' (opens_word mark '[' sign) _ _ ((tagged_tame tagged).absent '[' (by simp))
  · exact clear.mark_misses mark bracketed [] (by simp)

theorem classified : Kind.ofMarks (bgmWord.toList ++ (tag ++ told)) = .bgm := by
  have absent : ∀ mark, IsMark mark → clash mark.toList bgmWord.toList = true →
      occurs mark.toList (bgmWord.toList ++ (tag ++ told)) = false := fun mark bracketed clashes =>
    not_occurs mark (List.ne_nil_of_mem (List.mem_of_mem_head? (is_mark_opens mark bracketed))) _
      (mark_absent tagged clear mark bracketed clashes)
  have tip := absent tipWord (by decide) (by decide)
  have card := absent cardWord (by decide) (by decide)
  have jump := absent jumpWord (by decide) (by decide)
  have present : occurs bgmWord.toList (bgmWord.toList ++ (tag ++ told)) = true := by
    rw [occurs_inside]
    exact (List.prefix_append _ _).isInfix
  simp [Kind.ofMarks, Kind.marks, tip, card, jump, present]

theorem volume_applied (header : Header) : (Rule.first "volume" volumeAmount fun node amount =>
    (numberFrom amount fullVolume).map fun volume => some (node.updateBody fun (bgm : Bgm) => { bgm with volume := volume })).apply
      (tag ++ told, ⟨header, {}⟩) = .ok (told, voiced header again) := by
  have absent : volumeAmount.first? told = none :=
    first_none _ _ (clear.misses volumeAmount ('<', '>') (by decide) _ volume_encloses fun _ filled => filled)
  cases tagged with
  | full same =>
      exact Rule.first_tag _ _ _ [] told [] _ _ clear.tight (.inl ⟨rfl, absent, rfl⟩)
  | amount most other differs same spelled read =>
      refine Rule.first_tag _ _ _ (volumePiece most) told (natText most) _ _ clear.tight (.inr ⟨?_, reads_volume most, ?_⟩)
      · rw [volume_shape]
        exact List.cons_ne_nil _ _
      · rw [numberFrom, read]
        rfl

theorem rules_run (header : Header) : Rule.applyAll rules (bgmWord.toList ++ (tag ++ told), ⟨header, {}⟩) =
    .ok (told, voiced header again) := by
  have tight : Tight (tag ++ told) := tight_append _ _ (tagged_tame tagged).tight clear.tight
  refine (Rule.apply_all_cons _ _ _ _ (Rule.first_absent _ _ _ _ _ (ad_absent tagged clear))).trans ?_
  refine (Rule.apply_all_cons _ _ _ _ (Rule.first_absent _ _ _ _ _
    (mark_absent tagged clear startWord (by decide) (by decide)))).trans ?_
  refine (Rule.apply_all_cons _ _ _ _ (Rule.first_tag _ (word bgmWord) _ _ (tag ++ told) () _ _ tight
    (.inr ⟨by decide, reads_word bgmWord, rfl⟩))).trans ?_
  exact Rule.apply_all_cons _ [] _ _ (volume_applied tagged clear header)

end Written

theorem finish_cleaned (remainder : List Char) (node : NodeOf Bgm) : finish (clean remainder) node = finish remainder node := by
  rw [finish, clean_clean]
  rfl

end TaggedStory.Bgm

namespace TaggedStory

open Text Tag Mark Scanner Decimal

-- The same node, but for a volume that may be another number of the same value.
def Node.Alike (again node : Node) : Prop :=
  again = node ∨ ∃ bgm volume, node.body = .bgm bgm ∧ volume.same bgm.volume = true ∧
    again = ⟨node.header, .bgm { bgm with volume := volume }⟩

-- What the text of a node of a kind has to give back.
def Node.Fixed (kind : Kind) (header : Header) (isStart : Bool) (node : Node) : Prop :=
  ∃ written again, node.text isStart = .ok written ∧ again.Alike node ∧ again.text isStart = .ok written ∧
    ∀ hint ∈ [none, some kind], Node.parse written hint textEntity header = .ok again

theorem bgm_text_fixed (text : String) (header : Header) (isStart : Bool) :
    (∃ fault, Node.parse text (some .bgm) textEntity header = .error fault ∧ LongNumber fault) ∨
      ∃ node bgm, Node.parse text (some .bgm) textEntity header = .ok node ∧ node.body = .bgm bgm ∧
        ((∃ value, (Number.whole value).same bgm.volume = true) → node.Fixed .bgm header isStart) := by
  cases done : Rule.applyAll Bgm.rules (narrow text.toList, ⟨header, {}⟩) with
  | error fault =>
      refine .inl ⟨fault, ?_, Rule.apply_all_faults LongNumber Bgm.rules Bgm.rules_stop _ fault done⟩
      simp only [Node.parse, Option.getD_some, Node.parseAs, Node.parseWith, narrowed, String.toList_ofList, done]
      rfl
  | ok state =>
      obtain ⟨remainder, node⟩ := state
      obtain ⟨thinned, volume, rfl, heard⟩ := Rule.apply_all_upholds _ (Bgm.Voiced header) Bgm.rules Bgm.rules_cut
        (Bgm.rules_uphold _ header) ⟨header, {}⟩ _ ⟨Bgm.fullVolume, rfl, .inl rfl⟩ done
      refine .inr ⟨(Bgm.finish remainder (Bgm.voiced header volume)).mapBody .bgm, _, ?_, rfl, ?_⟩
      · simp only [Node.parse, Option.getD_some, Node.parseAs, Node.parseWith, narrowed, String.toList_ofList, done]
        rfl
      rintro ⟨value, whole⟩
      obtain ⟨tag, again, tagged⟩ := Bgm.heard_tagged volume heard value whole
      have clear := clean_is_clean remainder
      have letters := Bgm.tagged_text tagged (Bgm.finish remainder (Bgm.voiced header volume)).body rfl
      have lettersAgain := Bgm.again_text tagged (Bgm.finish remainder (Bgm.voiced header again)).body rfl
      have audio : ∀ volume, (Bgm.finish remainder (Bgm.voiced header volume)).body.audioFile.toList = clean remainder :=
        fun _ => String.toList_ofList
      rw [audio] at letters lettersAgain
      have rewrote := String.toList_inj.mp (lettersAgain.trans letters.symm)
      obtain ⟨written, wrote⟩ : ∃ written, Bgm.tagText (Bgm.finish remainder (Bgm.voiced header volume)).body = written :=
        ⟨_, rfl⟩
      rw [wrote] at letters rewrote
      have half : ∀ c ∈ bgmWord.toList ++ (tag ++ clean remainder), isWide c = false := by
        intro c member
        rcases List.mem_append.mp member with member | member
        · exact (by decide : ∀ c ∈ bgmWord.toList, isWide c = false) c member
        · rcases List.mem_append.mp member with member | member
          · exact (Bgm.tagged_tame tagged).half c member
          · exact narrow_is_half _ c ((thinned_sublist _ _ thinned).subset ((clean_sublist remainder).subset member))
      have run := Bgm.rules_run tagged clear header
      rw [← letters] at run
      refine ⟨written, (Bgm.finish remainder (Bgm.voiced header again)).mapBody .bgm, congrArg Except.ok wrote,
        .inr ⟨_, again, rfl, Bgm.tagged_same tagged, rfl⟩, congrArg Except.ok rewrote,
        Node.parse_again .bgm written header _ ?_ ?_ ?_⟩
      · rwa [letters]
      · rw [letters, Bgm.classified tagged clear]
      · simp only [Node.parseAs, Node.parseWith, run]
        rw [← Bgm.finish_cleaned remainder]
        rfl

theorem task_and_bgm_texts_fixed (kind : Kind) (either : kind = .task ∨ kind = .bgm) (text : String) (header : Header)
    (isStart : Bool) :
    (∃ fault, Node.parse text (some kind) textEntity header = .error fault ∧ LongNumber fault) ∨
      ∃ node, Node.parse text (some kind) textEntity header = .ok node ∧
        ((∀ bgm, node.body = .bgm bgm → ∃ value, (Number.whole value).same bgm.volume = true) →
          node.Fixed kind header isStart) := by
  rcases either with rfl | rfl
  · rcases task_text_fixed text header isStart with stopped | ⟨node, read, written, wrote, back⟩
    · exact .inl stopped
    · exact .inr ⟨node, read, fun _ => ⟨written, node, wrote, .inl rfl, wrote, back⟩⟩
  · rcases bgm_text_fixed text header isStart with stopped | ⟨node, bgm, read, body, fixed⟩
    · exact .inl stopped
    · exact .inr ⟨node, read, fun whole => fixed (whole bgm body)⟩

def brokenTask : String := "主线［任务节点：３］《完[任务节点:4]"

theorem broken_task_fixed : ∃ node, Node.parse brokenTask (some .task) textEntity {} = .ok node ∧ node.Fixed .task {} false := by
  have read : (match Node.parse brokenTask (some .task) textEntity {} with
      | .ok node => decide (node.body.kind = .task)
      | .error _ => false) = true := by decide +kernel
  rcases task_and_bgm_texts_fixed .task (.inl rfl) brokenTask {} false with ⟨fault, stopped, _⟩ | ⟨node, done, fixed⟩
  · rw [stopped] at read
    cases read
  · rw [done, decide_eq_true_iff] at read
    refine ⟨node, done, fixed fun bgm body => ?_⟩
    rw [body] at read
    cases read

-- A count of more zeros than a whole number may have digits stops the reading, although it is zero.
theorem zero_count_refused :
    Node.parse (String.ofList (Interchange.longCount Interchange.manyZeros)) (some .task) textEntity {} =
      .error (.unreadableWhole (.str (String.ofList Interchange.manyZeros)) (.tooLong Interchange.manyZeros.length)) := by
  have all : AllDigits Interchange.manyZeros := by
    intro c member
    rw [List.eq_of_mem_replicate member]
    rfl
  have long : digitLimit < Interchange.manyZeros.length := by simp [Interchange.manyZeros]
  have filled : Interchange.manyZeros ≠ [] := List.ne_nil_of_length_pos (Nat.lt_of_le_of_lt (Nat.zero_le _) long)
  have half : ∀ c ∈ Interchange.longCount Interchange.manyZeros, isWide c = false := by
    intro c member
    rcases List.mem_append.mp member with member | member
    · exact (by decide : ∀ c ∈ Interchange.countOpening, isWide c = false) c member
    · rcases List.mem_append.mp member with member | member
      · exact (digit_quiet c (all c member)).2
      · exact (by decide : ∀ c ∈ [']'], isWide c = false) c member
  have same : narrowed (String.ofList (Interchange.longCount Interchange.manyZeros)) =
      String.ofList (Interchange.longCount Interchange.manyZeros) := by
    rw [narrowed, String.toList_ofList, narrow_half _ half]
  have found := Task.taskCount.first_reads (Interchange.longCount Interchange.manyZeros) _ (List.cons_ne_nil _ _)
    (Interchange.reads_count Interchange.manyZeros all filled) []
  rw [List.append_nil] at found
  have refused := whole_from_illegible Interchange.manyZeros all long (by rw [Interchange.many_zeros_value]; rfl)
  have stopped : ∀ start, Rule.applyAll Task.rules (Interchange.longCount Interchange.manyZeros, start) = .error _ := fun start =>
    Rule.apply_all_stopped _ [] _ _ (Rule.first_stopped _ Task.taskCount _ _ start _ _ found (by rw [refused]; rfl))
  simp only [Node.parse, same, Option.getD_some, Node.parseAs, Node.parseWith, String.toList_ofList, stopped]
  rfl

end TaggedStory
