import TaggedStory.Proofs.Tag.Splitting
import TaggedStory.Tag.Effect
/-!
Heads of settings and of accumulative effects, which end at a colon. Such a head is read alike whatever follows the
colon, and does not reach beyond a name into an operator.
-/
set_option autoImplicit false

namespace TaggedStory.Tag

open Text Scanner

section Settings

-- Everything up to the first colon is read, and all of it is of one kind.
def StopsAtColon (s : Scanner Unit) (accepts : Char → Bool) : Prop :=
  ∀ text rest value, StateT.run s text = some (value, rest) →
    ∃ piece c, text = piece ++ c :: rest ∧ (c = ':' ∨ c = '：') ∧ ∀ x ∈ piece, accepts x = true

variable (accepts : Char → Bool)

theorem stops_colon : StopsAtColon colon accepts := by
  intro text rest value done
  obtain ⟨c, isColon, rfl⟩ := (colon_succeeds _ _ _).mp done
  exact ⟨[], c, rfl, isColon, by simp⟩

theorem stops_after {α : Type} (s : Scanner α) (next : α → Scanner Unit)
    (consumes : ∀ text rest value, StateT.run s text = some (value, rest) →
      ∃ piece, text = piece ++ rest ∧ ∀ x ∈ piece, accepts x = true)
    (stops : ∀ value, StopsAtColon (next value) accepts) : StopsAtColon (s >>= next) accepts := by
  intro text rest value done
  rw [bind_succeeds] at done
  obtain ⟨found, middle, first, done⟩ := done
  obtain ⟨piece, rfl, accepted⟩ := consumes _ _ _ first
  obtain ⟨later, c, rfl, isColon, acceptedLater⟩ := stops found _ _ _ done
  refine ⟨piece ++ later, c, by rw [List.append_assoc], isColon, fun x member => ?_⟩
  rcases List.mem_append.mp member with member | member
  · exact accepted x member
  · exact acceptedLater x member

theorem blanks_consume (blank : ∀ c, isBlank c = true → accepts c = true) (text rest : List Char) (value : Unit)
    (done : StateT.run blanks text = some (value, rest)) :
    ∃ piece, text = piece ++ rest ∧ ∀ x ∈ piece, accepts x = true := by
  obtain ⟨gap, shape, gapBlank⟩ := blanks_split text rest value done
  exact ⟨gap, shape, fun x member => blank x (gapBlank x member)⟩

theorem word_consumes (expected : String) (each : ∀ c ∈ expected.toList, accepts c = true) (text rest : List Char)
    (value : Unit) (done : StateT.run (word expected) text = some (value, rest)) :
    ∃ piece, text = piece ++ rest ∧ ∀ x ∈ piece, accepts x = true :=
  ⟨expected.toList, (word_succeeds _ _ _ _).mp done, each⟩

theorem or_else_consumes {α : Type} (s t : Scanner α) (text rest : List Char) (value : α)
    (first : StateT.run s text = some (value, rest) → ∃ piece, text = piece ++ rest ∧ ∀ x ∈ piece, accepts x = true)
    (second : StateT.run t text = some (value, rest) → ∃ piece, text = piece ++ rest ∧ ∀ x ∈ piece, accepts x = true)
    (done : StateT.run (s <|> t) text = some (value, rest)) :
    ∃ piece, text = piece ++ rest ∧ ∀ x ∈ piece, accepts x = true := by
  change (StateT.run s text <|> StateT.run t text) = _ at done
  cases found : StateT.run s text with
  | none =>
      rw [found] at done
      exact second done
  | some pair =>
      rw [found] at done
      exact first (found.trans done)

theorem stops_refuses (s : Scanner Unit) (stops : StopsAtColon s accepts) (lead rest : List Char) (c : Char)
    (noColon : ∀ x ∈ lead, x ≠ ':' ∧ x ≠ '：') (other : accepts c = false) (notColon : c ≠ ':' ∧ c ≠ '：') :
    StateT.run s (lead ++ c :: rest) = none := by
  cases done : StateT.run s (lead ++ c :: rest) with
  | none => rfl
  | some pair =>
      obtain ⟨value, after⟩ := pair
      obtain ⟨piece, sign, shape, isColon, accepted⟩ := stops _ _ _ done
      have rejected : ¬ ∃ later, piece = lead ++ c :: later := by
        rintro ⟨later, rfl⟩
        rw [accepted c (List.mem_append_right lead List.mem_cons_self)] at other
        cases other
      have outside : sign ∉ lead ++ [c] := by
        intro member
        rcases List.mem_append.mp member with member | member
        · exact isColon.elim (noColon sign member).1 (noColon sign member).2
        · rw [List.mem_singleton.mp member] at isColon
          exact isColon.elim notColon.1 notColon.2
      have split := List.append_eq_append_iff.mp
        (show (lead ++ [c]) ++ rest = piece ++ sign :: after by simpa using shape)
      rcases split with ⟨later, same, _⟩ | ⟨later, same, tail⟩
      · exact absurd ⟨later, by simpa using same⟩ rejected
      · cases later with
        | nil => exact absurd ⟨[], by simpa using same.symm⟩ rejected
        | cons d later =>
            rw [List.cons_append, List.cons.injEq] at tail
            refine absurd ?_ outside
            rw [same, tail.1]
            exact List.mem_append_right piece List.mem_cons_self

def isSettingSign (c : Char) : Bool :=
  isBlank c || c ∈ "全局最大小默认值SA".toList

theorem setting_blank (c : Char) (blank : isBlank c = true) : isSettingSign c = true := by
  rw [isSettingSign, blank, Bool.true_or]

theorem stops_blanks (s : Scanner Unit) (stops : StopsAtColon s isSettingSign) :
    StopsAtColon (blanks >>= fun _ => s) isSettingSign :=
  stops_after _ blanks _ (blanks_consume _ setting_blank) fun _ => stops

theorem stops_word (expected : String) (each : ∀ c ∈ expected.toList, isSettingSign c = true) (s : Scanner Unit)
    (stops : StopsAtColon s isSettingSign) : StopsAtColon (word expected >>= fun _ => s) isSettingSign :=
  stops_after _ _ _ (word_consumes _ expected each) fun _ => stops

theorem stops_either (expected other : String) (each : ∀ c ∈ expected.toList ++ other.toList, isSettingSign c = true)
    (s : Scanner Unit) (stops : StopsAtColon s isSettingSign) :
    StopsAtColon ((word expected <|> word other) >>= fun _ => s) isSettingSign := by
  refine stops_after _ _ _ (fun text rest value => ?_) fun _ => stops
  exact or_else_consumes _ _ _ _ _ _
    (word_consumes _ expected (fun c member => each c (List.mem_append_left _ member)) _ _ _)
    (word_consumes _ other (fun c member => each c (List.mem_append_right _ member)) _ _ _)

theorem stops_char (c : Char) (accepted : isSettingSign c = true) (s : Scanner Unit)
    (stops : StopsAtColon s isSettingSign) : StopsAtColon (char c >>= fun _ => s) isSettingSign := by
  refine stops_after _ _ _ (fun text rest value done => ?_) fun _ => stops
  exact ⟨[c], (char_succeeds _ _ _ _).mp done, by simpa using accepted⟩

theorem global_limit_stops : StopsAtColon globalLimit isSettingSign :=
  stops_blanks _ (stops_word "全局" (by decide) _ (stops_blanks _
    (stops_either "最大值" "最小值" (by decide) _ (stops_blanks _ (stops_colon _)))))

theorem default_limit_stops : StopsAtColon defaultLimit isSettingSign :=
  stops_blanks _ (stops_either "最大默认值" "最小默认值" (by decide) _ (stops_blanks _ (stops_colon _)))

theorem sound_setting_stops : StopsAtColon soundSetting isSettingSign :=
  stops_blanks _ (stops_char 'S' (by decide) _ (stops_blanks _ (stops_colon _)))

theorem accumulative_mark_stops : StopsAtColon accumulativeMark isSettingSign :=
  stops_char 'A' (by decide) _ (stops_blanks _ (stops_colon _))

end Settings

section Firm

variable {α β : Type}

-- What was consumed is consumed again in front of any text that goes on with the same character.
def Firm (s : Scanner α) : Prop :=
  ∀ text rest value, StateT.run s text = some (value, rest) →
    ∃ piece, text = piece ++ rest ∧ ∀ other, other.head? = rest.head? → StateT.run s (piece ++ other) = some (value, other)

-- The text is consumed up to a colon, and what follows the colon does not matter.
def EndsInColon (s : Scanner Unit) : Prop :=
  ∀ text rest value, StateT.run s text = some (value, rest) →
    ∃ piece c, text = piece ++ c :: rest ∧ (c = ':' ∨ c = '：') ∧ ∀ other, StateT.run s (piece ++ c :: other) = some (value, other)

theorem firm_word (expected : String) : Firm (word expected) := by
  intro text rest value done
  exact ⟨expected.toList, (word_succeeds _ _ _ _).mp done, fun other _ => (word_succeeds _ _ _ _).mpr rfl⟩

theorem firm_char (c : Char) : Firm (char c) := by
  intro text rest value done
  exact ⟨[c], (char_succeeds _ _ _ _).mp done, fun other _ => (char_succeeds _ _ _ _).mpr rfl⟩

theorem firm_blanks : Firm blanks := by
  intro text rest value done
  have stopped := blanks_succeeds text rest value done
  refine ⟨text.takeWhile isBlank, by rw [stopped, List.takeWhile_append_dropWhile], fun other same => ?_⟩
  have solid : ∀ c ∈ other.head?, isBlank c = false := by
    rw [same, stopped]
    exact drop_blanks_head text
  change some ((), trimLeft (text.takeWhile isBlank ++ other)) = some ((), other)
  rw [trim_left_gap _ other (fun c member => List.mem_takeWhile_imp member) solid]

theorem firm_either (first second : String) (different : clash first.toList second.toList = true) :
    Firm (word first <|> word second) := by
  intro text rest value done
  change (StateT.run (word first) text <|> StateT.run (word second) text) = _ at done
  cases found : StateT.run (word first) text with
  | some pair =>
      rw [found] at done
      obtain ⟨piece, shape, again⟩ := firm_word first text rest value (found.trans done)
      refine ⟨piece, shape, fun other same => ?_⟩
      change (StateT.run (word first) (piece ++ other) <|> _) = _
      rw [again other same]
      rfl
  | none =>
      rw [found] at done
      have shape := (word_succeeds second text rest value).mp done
      refine ⟨second.toList, shape, fun other _ => ?_⟩
      have refused : StateT.run (word first) (second.toList ++ other) = none :=
        Option.map_eq_none_iff.mpr (clash_dropped _ _ other different)
      change (StateT.run (word first) (second.toList ++ other) <|> StateT.run (word second) (second.toList ++ other)) = _
      rw [refused]
      exact (word_succeeds _ _ _ _).mpr rfl

theorem colon_ends : EndsInColon colon := by
  intro text rest value done
  obtain ⟨c, isColon, shape⟩ := (colon_succeeds _ _ _).mp done
  exact ⟨[], c, shape, isColon, fun other => (colon_succeeds _ _ _).mpr ⟨c, isColon, rfl⟩⟩

theorem firm_then (s : Scanner α) (next : α → Scanner Unit) (firm : Firm s) (ends : ∀ value, EndsInColon (next value)) :
    EndsInColon (s >>= next) := by
  intro text rest value done
  obtain ⟨found, middle, first, second⟩ := (bind_succeeds _ _ _ _ _).mp done
  obtain ⟨piece, rfl, again⟩ := firm text middle found first
  obtain ⟨later, c, rfl, isColon, andAgain⟩ := ends found middle rest value second
  refine ⟨piece ++ later, c, by rw [List.append_assoc], isColon, fun other => ?_⟩
  rw [List.append_assoc]
  refine (bind_succeeds _ _ _ _ _).mpr ⟨found, later ++ c :: other, again _ ?_, andAgain other⟩
  cases later <;> rfl

end Firm

def heads : List (Scanner Unit) :=
  [globalLimit, defaultLimit, soundSetting, accumulativeMark]

theorem heads_end : ∀ head ∈ heads, EndsInColon head := by
  have wordThen (expected : String) (s : Scanner Unit) (ends : EndsInColon s) : EndsInColon (word expected >>= fun _ => s) :=
    firm_then _ _ (firm_word expected) fun _ => ends
  have blanksThen (s : Scanner Unit) (ends : EndsInColon s) : EndsInColon (blanks >>= fun _ => s) :=
    firm_then _ _ firm_blanks fun _ => ends
  have charThen (c : Char) (s : Scanner Unit) (ends : EndsInColon s) : EndsInColon (char c >>= fun _ => s) :=
    firm_then _ _ (firm_char c) fun _ => ends
  have eitherThen (first second : String) (different : clash first.toList second.toList = true) (s : Scanner Unit)
      (ends : EndsInColon s) : EndsInColon ((word first <|> word second) >>= fun _ => s) :=
    firm_then _ _ (firm_either first second different) fun _ => ends
  have last := blanksThen _ colon_ends
  simp only [heads, List.forall_mem_cons]
  exact ⟨blanksThen _ (wordThen _ _ (blanksThen _ (eitherThen _ _ (by decide) _ last))),
    blanksThen _ (eitherThen _ _ (by decide) _ last), blanksThen _ (charThen 'S' _ last), charThen 'A' _ last, by simp⟩

theorem heads_stop : ∀ head ∈ heads, StopsAtColon head isSettingSign := by
  simp only [heads, List.forall_mem_cons]
  exact ⟨global_limit_stops, default_limit_stops, sound_setting_stops, accumulative_mark_stops, by simp⟩

section Names

variable (head : Scanner Unit) (known : head ∈ heads)

include known

theorem head_longer (name other : List Char) (found : StateT.run head name ≠ none) : StateT.run head (name ++ other) ≠ none := by
  obtain ⟨⟨value, rest⟩, done⟩ := Option.ne_none_iff_exists'.mp found
  obtain ⟨piece, c, rfl, _, again⟩ := heads_end head known name rest value done
  rw [List.append_assoc, List.cons_append, again]
  exact Option.some_ne_none _

-- A head in front of a written effect is a head of the name.
theorem head_of_name (name tail : List Char) (operation : Operation)
    (found : StateT.run head (name ++ ' ' :: operation.sign :: tail) ≠ none) : StateT.run head name ≠ none := by
  obtain ⟨⟨value, rest⟩, done⟩ := Option.ne_none_iff_exists'.mp found
  obtain ⟨piece, c, shape, isColon, again⟩ := heads_end head known _ rest value done
  obtain ⟨same, c', shape', _, accepted⟩ := heads_stop head known _ rest value done
  obtain ⟨rfl, _⟩ := List.append_inj' (shape.symm.trans shape') rfl
  have outside : operation.sign ∉ piece ++ [c] := by
    rw [List.mem_append, List.mem_singleton]
    rintro (inside | ends)
    · have refused : isSettingSign operation.sign = false := by cases operation <;> decide
      rw [accepted _ inside] at refused
      cases refused
    · rw [← ends] at isColon
      cases operation <;> exact absurd isColon (by decide)
  rcases List.append_eq_append_iff.mp (show (piece ++ [c]) ++ rest = name ++ (' ' :: operation.sign :: tail) by simpa using shape.symm)
    with ⟨more, whole, _⟩ | ⟨more, whole, after⟩
  · rw [whole, List.append_assoc, List.singleton_append, again]
    exact Option.some_ne_none _
  · cases more with
    | nil =>
        rw [List.append_nil] at whole
        rw [← whole, again]
        exact Option.some_ne_none _
    | cons d more =>
        obtain ⟨rfl, beyond⟩ := List.cons.inj after
        cases more with
        | nil =>
            obtain rfl : c = ' ' := by simpa using (List.append_inj' whole rfl).2
            exact absurd isColon (by decide)
        | cons e more =>
            obtain ⟨rfl, _⟩ := List.cons.inj beyond
            exact absurd (by rw [whole]; simp) outside

end Names

end TaggedStory.Tag
