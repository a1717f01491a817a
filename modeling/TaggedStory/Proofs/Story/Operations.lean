import TaggedStory.Proofs.Decimal.Legible
import TaggedStory.Story.Effect
/-!
The tokens that stand for an operation: its number, whole or as a decimal, its word, its sign and its number as a text. Any
other token is refused as unknown, but for texts of digit signs that make no number, which stop as unreadable.
-/
set_option autoImplicit false

namespace TaggedStory

open Text Decimal

section Numerals

-- A number in decimal digits of any script, short enough to be read.
structure IsNumeral (key : List Char) : Prop where
  filled : key ≠ []
  digits : ∀ c ∈ key, isDigit c = true
  short : key.length ≤ digitLimit

instance (key : List Char) : Decidable (IsNumeral key) :=
  decidable_of_iff (key ≠ [] ∧ (∀ c ∈ key, isDigit c = true) ∧ key.length ≤ digitLimit)
    ⟨fun ⟨filled, digits, short⟩ => ⟨filled, digits, short⟩, fun numeral => ⟨numeral.filled, numeral.digits, numeral.short⟩⟩

def numeralValue (key : List Char) : Nat :=
  natOfDigits (digitValues key)

variable (key : List Char)

theorem numeral_signs (numeral : IsNumeral key) : ∀ c ∈ key, isDigitSign c = true := by
  intro c member
  rw [isDigitSign, numeral.digits c member, Bool.true_or]

section Signs

variable (signs : ∀ c ∈ key, isDigitSign c = true)

include signs

theorem signs_lack (c : Char) (other : isDigitSign c = false) : c ∉ key := by
  intro member
  rw [signs c member] at other
  cases other

theorem signs_unsigned : takeSign key = (false, key) :=
  take_sign_none key (signs_lack key signs '-' (by decide)) (signs_lack key signs '+' (by decide))

theorem signs_run : digitRun digitValue? key = (digitValues (key.takeWhile isDigit), key.dropWhile isDigit) :=
  digit_run_unlined key (signs_lack key signs '_' (by decide))

-- What is no number in spite of its signs holds one without a decimal value, or too many of them.
theorem signs_unread (tight : Tight key) (other : ¬IsNumeral key) : ∃ cause, readWhole key = .error cause := by
  by_cases digits : ∀ c ∈ key, isDigit c = true
  · by_cases empty : key = []
    · rw [empty]
      exact ⟨_, rfl⟩
    · have long : digitLimit < key.length := Nat.not_le.mp fun short => other ⟨empty, digits, short⟩
      rw [whole_read key key false tight (signs_unsigned key signs) empty digits, if_pos long]
      exact ⟨_, rfl⟩
  · rw [← List.dropWhile_eq_nil_iff] at digits
    obtain ⟨c, after, rest⟩ := List.exists_cons_of_ne_nil digits
    rw [readWhole, trim_number_tight key tight, signs_unsigned key signs]
    simp only [signs_run key signs, rest]
    cases digitValues (key.takeWhile isDigit) with
    | nil => exact ⟨_, rfl⟩
    | cons value more =>
        dsimp only
        split <;> exact ⟨_, rfl⟩

end Signs

theorem numeral_read (tight : Tight key) (numeral : IsNumeral key) : readWhole key = .ok (numeralValue key) := by
  rw [whole_read key key false tight (signs_unsigned key (numeral_signs key numeral)) numeral.filled numeral.digits,
    if_neg (Nat.not_lt.mpr numeral.short), if_neg Bool.false_ne_true, numeralValue]

end Numerals

namespace Operation

-- A token in one of the forms in which an operation is written.
inductive Spells : Json → Operation → Prop where
  | number (operation : Operation) : Spells (.int operation.number) operation
  | decimal (value : Double) (operation : Operation) (whole : value.toInt? = some (operation.number : Int)) :
      Spells (.float value) operation
  | word (text : String) (operation : Operation) (same : trimmed text = operation.word) : Spells (.str text) operation
  | symbol (text : String) (operation : Operation) (same : trimmed text = operation.symbol) : Spells (.str text) operation
  | numeral (text : String) (operation : Operation) (numeral : IsNumeral (trim text.toList))
      (same : numeralValue (trim text.toList) = operation.number) : Spells (.str text) operation

-- Digit signs alone that make no number.
def Misread : Json → Prop
  | .str text => trim text.toList ≠ [] ∧ (∀ c ∈ trim text.toList, isDigitSign c = true) ∧ ¬IsNumeral (trim text.toList)
  | _ => False

-- What a refusal names: the whole number that the token stands for, or the token itself.
def meant : Json → Json
  | .float value => (value.toInt?.map Json.int).getD (.float value)
  | .str text => if IsNumeral (trim text.toList) then .int (numeralValue (trim text.toList)) else .str text
  | token => token

theorem int_known (operation : Operation) : ofInt operation.number = .ok operation := by
  cases operation <;> rfl

theorem int_unknown (value : Int) (unknown : ∀ operation : Operation, (operation.number : Int) ≠ value) :
    ofInt value = .error (.unknownOperation (.int value)) := by
  have absent : all.find? (fun operation => (operation.number : Int) = value) = none :=
    List.find?_eq_none.mpr fun operation _ => by simpa using unknown operation
  rw [ofInt, absent]

section Texts

variable (text : String)

theorem named_known (operation : Operation) (named : trimmed text = operation.word ∨ trimmed text = operation.symbol) :
    ofText text = .ok operation := by
  rw [ofText]
  rcases named with same | same <;> simp only [same] <;> cases operation <;> rfl

theorem unnamed_read (unnamed : ∀ operation : Operation, ¬(trimmed text = operation.word ∨ trimmed text = operation.symbol)) :
    ofText text =
      if trim text.toList ≠ [] ∧ ∀ c ∈ trim text.toList, isDigitSign c = true then
        match readWhole (trim text.toList) with
        | .ok value => ofInt value
        | .error cause => .error (.unreadableWhole (.str (trimmed text)) cause)
      else .error (.unknownOperation (.str text)) := by
  have absent : all.find? (fun operation => operation.word = trimmed text ∨ operation.symbol = trimmed text) = none :=
    List.find?_eq_none.mpr fun operation _ => by
      rw [decide_eq_true_eq]
      exact fun named => unnamed operation (named.imp Eq.symm Eq.symm)
  have letters : (trimmed text).toList = trim text.toList := String.toList_ofList
  have filled : (trimmed text).isEmpty = false ↔ trim text.toList ≠ [] := by
    rw [← Bool.not_eq_true, String.isEmpty_iff, trimmed, String.ofList_eq_empty_iff]
  have digits : (!(trimmed text).isEmpty && (trim text.toList).all isDigitSign) = true ↔
      trim text.toList ≠ [] ∧ ∀ c ∈ trim text.toList, isDigitSign c = true := by
    rw [Bool.and_eq_true, Bool.not_eq_true', filled, List.all_eq_true]
  simp only [ofText, absent, letters]
  exact if_congr digits rfl rfl

-- No word and no sign of an operation is made of digit signs.
theorem signs_unnamed (signs : ∀ c ∈ trim text.toList, isDigitSign c = true) (operation : Operation) :
    ¬(trimmed text = operation.word ∨ trimmed text = operation.symbol) := by
  have letters : (trimmed text).toList = trim text.toList := String.toList_ofList
  have others : operation.word.toList.any (fun c => !isDigitSign c) = true ∧
      operation.symbol.toList.any (fun c => !isDigitSign c) = true := by
    cases operation <;> decide
  simp only [List.any_eq_true, Bool.not_eq_true'] at others
  obtain ⟨⟨c, inWord, other⟩, d, inSymbol, otherSymbol⟩ := others
  rintro (same | same)
  · exact signs_lack _ signs c other (by rwa [← letters, same])
  · exact signs_lack _ signs d otherSymbol (by rwa [← letters, same])

theorem numeral_text (numeral : IsNumeral (trim text.toList)) : ofText text = ofInt (numeralValue (trim text.toList)) := by
  have signs := numeral_signs _ numeral
  rw [unnamed_read text (signs_unnamed text signs), if_pos ⟨numeral.filled, signs⟩,
    numeral_read _ (trim_tightens text.toList) numeral]

end Texts

section Tokens

variable (token : Json)

theorem spelled_known (operation : Operation) (spelled : Spells token operation) : ofToken token = .ok operation := by
  cases spelled with
  | number => exact int_known operation
  | decimal value _ whole => simp only [ofToken, whole, int_known]
  | word text _ same => exact named_known text operation (.inl same)
  | symbol text _ same => exact named_known text operation (.inr same)
  | numeral text _ numeral same => rw [ofToken, numeral_text text numeral, same, int_known]

theorem misread_stops (misread : Misread token) :
    ∃ key cause, ofToken token = .error (.unreadableWhole (.str key) cause) := by
  cases token with
  | str text =>
      obtain ⟨filled, signs, other⟩ := misread
      obtain ⟨cause, refused⟩ := signs_unread _ signs (trim_tightens text.toList) other
      refine ⟨trimmed text, cause, ?_⟩
      rw [ofToken, unnamed_read text (signs_unnamed text signs), if_pos ⟨filled, signs⟩, refused]
  | _ => exact misread.elim

theorem other_refused (legible : ¬Misread token) (other : ¬∃ operation, Spells token operation) :
    ofToken token = .error (.unknownOperation (meant token)) := by
  have number (value : Int) (unspelled : ∀ operation : Operation, (operation.number : Int) = value → Spells token operation) :
      ofInt value = .error (.unknownOperation (.int value)) :=
    int_unknown value fun operation same => other ⟨operation, unspelled operation same⟩
  cases token with
  | int value => exact number value fun operation same => same ▸ .number operation
  | float value =>
      cases whole : value.toInt? with
      | none => simp [ofToken, meant, whole]
      | some n =>
          simp only [ofToken, meant, whole]
          exact number n fun operation same => .decimal value operation (same ▸ whole)
  | str text =>
      rw [ofToken, meant]
      by_cases numeral : IsNumeral (trim text.toList)
      · rw [if_pos numeral, numeral_text text numeral]
        exact number _ fun operation same => .numeral text operation numeral (by exact_mod_cast same.symm)
      · have unnamed (operation : Operation) : ¬(trimmed text = operation.word ∨ trimmed text = operation.symbol) := by
          rintro (same | same)
          · exact other ⟨operation, .word text operation same⟩
          · exact other ⟨operation, .symbol text operation same⟩
        have odd : ¬(trim text.toList ≠ [] ∧ ∀ c ∈ trim text.toList, isDigitSign c = true) :=
          fun ⟨filled, signs⟩ => legible ⟨filled, signs, numeral⟩
        rw [if_neg numeral, unnamed_read text unnamed, if_neg odd]
  | _ => rfl

-- The three outcomes exclude each other, so that each has exactly the tokens that lead to it.
theorem operation_of_token :
    (∀ operation, ofToken token = .ok operation ↔ Spells token operation) ∧
    (ofToken token = .error (.unknownOperation (meant token)) ↔ ¬Misread token ∧ ¬∃ operation, Spells token operation) ∧
    ((∃ key cause, ofToken token = .error (.unreadableWhole (.str key) cause)) ↔ Misread token) := by
  by_cases misread : Misread token
  · obtain ⟨key, cause, stopped⟩ := misread_stops token misread
    have unspelled (operation : Operation) : ¬Spells token operation := by
      intro spelled
      cases stopped.symm.trans (spelled_known token operation spelled)
    simp [stopped, misread, unspelled]
  · by_cases spelled : ∃ operation, Spells token operation
    · obtain ⟨known, spelled⟩ := spelled
      have only (operation : Operation) : Spells token operation ↔ known = operation := by
        refine ⟨fun other => ?_, fun same => same ▸ spelled⟩
        exact Except.ok.inj ((spelled_known token known spelled).symm.trans (spelled_known token operation other))
      simp [spelled_known token known spelled, misread, only]
    · have unspelled : ∀ operation, ¬Spells token operation := not_exists.mp spelled
      simp [other_refused token misread spelled, misread, unspelled]

end Tokens

theorem zeros_value (count : Nat) : numeralValue (List.replicate count '0') = set.number := by
  have digits : digitValues (List.replicate count '0') = List.replicate count 0 :=
    List.filterMap_replicate_of_some (by decide)
  rw [numeralValue, digits]
  induction count with
  | zero => rfl
  | succ count ih => exact ih (List.filterMap_replicate_of_some (by decide))

theorem zeros_misread (count : Nat) (long : digitLimit < count) : Misread (.str (String.ofList (List.replicate count '0'))) := by
  have zero : ∀ c ∈ List.replicate count '0', c = '0' := fun c member => List.eq_of_mem_replicate member
  have solid : ∀ c ∈ List.replicate count '0', isBlank c = false := by
    intro c member
    rw [zero c member]
    decide
  have key : trim (String.ofList (List.replicate count '0')).toList = List.replicate count '0' := by
    rw [String.toList_ofList, trim_tight _ (solid_tight _ solid)]
  rw [Misread, key]
  refine ⟨?_, fun c member => ?_, fun numeral => ?_⟩
  · rw [ne_eq, List.replicate_eq_nil_iff]
    exact Nat.ne_of_gt (Nat.zero_lt_of_lt long)
  · rw [zero c member]
    decide
  · have short := numeral.short
    rw [List.length_replicate] at short
    exact Nat.not_lt.mpr short long

-- A raised two is a digit sign without a decimal value; a number of thousands of zeros is not read, whatever its value.
theorem digit_signs_unreadable :
    ofToken (.str "²") = .error (.unreadableWhole (.str "²") .unreadable) ∧
    numeralValue (List.replicate 4301 '0') = set.number ∧
    ∃ key cause, ofToken (.str (String.ofList (List.replicate 4301 '0'))) = .error (.unreadableWhole (.str key) cause) :=
  ⟨rfl, zeros_value 4301, misread_stops _ (zeros_misread 4301 (by decide))⟩

end Operation

end TaggedStory
