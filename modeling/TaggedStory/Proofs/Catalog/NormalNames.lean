import TaggedStory.Proofs.Catalog.Reordering
/-!
The names under which variables are entered. Normalizing takes one layer of blanks, one of signs and one more of blanks from
either end, so that a name is in normal form unless signs resume behind the blanks.
-/
set_option autoImplicit false

namespace TaggedStory

open Text

namespace Catalog

-- Signs at the front of a text, blanks behind them and then a sign again.
def Resumes (text : List Char) : Prop :=
  ∃ lead signs gap c rest, text = lead ++ (signs ++ (gap ++ c :: rest)) ∧ (∀ d ∈ lead, isBlank d = true) ∧
    (signs ≠ [] ∧ ∀ d ∈ signs, Tag.isBoundarySign d = true) ∧ (gap ≠ [] ∧ ∀ d ∈ gap, isBlank d = true) ∧
    Tag.isBoundarySign c = true

-- The same at either end.
def Broken (text : List Char) : Prop :=
  Resumes text ∨ Resumes text.reverse

theorem normalize_strips (text : List Char) :
    normalize text = strip isBlank (strip Tag.isBoundarySign (strip isBlank text)) := rfl

theorem sign_solid (c : Char) (sign : Tag.isBoundarySign c = true) : isBlank c = false := by
  simp only [Tag.isBoundarySign, Bool.or_eq_true, beq_iff_eq, or_assoc] at sign
  rcases sign with rfl | rfl | rfl | rfl | rfl | rfl | rfl | rfl <;> decide

theorem blank_unsigned (c : Char) (blank : isBlank c = true) : Tag.isBoundarySign c = false := by
  cases sign : Tag.isBoundarySign c with
  | false => rfl
  | true => rw [sign_solid c sign] at blank; cases blank

-- What normalizing takes from a text, layer by layer, on its way to the name: inner layers only where the outer ones are.
structure Layers (text name lead signs gap after trail tail : List Char) : Prop where
  shape : text = lead ++ (signs ++ (gap ++ (name ++ (after ++ (trail ++ tail)))))
  blank : ∀ c ∈ lead ++ (gap ++ (after ++ tail)), isBlank c = true
  signed : ∀ c ∈ signs ++ trail, Tag.isBoundarySign c = true
  tight : Tight name
  solid : (signs = [] → gap = []) ∧ (trail = [] → after = [])
  unsigned : (gap = [] → ∀ c ∈ name.head?, Tag.isBoundarySign c = false) ∧
    (after = [] → ∀ c ∈ name.getLast?, Tag.isBoundarySign c = false)

section Names

variable {text name lead signs gap after trail tail : List Char}

theorem Layers.reversed (layers : Layers text name lead signs gap after trail tail) :
    Layers text.reverse name.reverse tail.reverse trail.reverse after.reverse gap.reverse signs.reverse lead.reverse where
  shape := by
    rw [layers.shape]
    simp
  blank := fun c member => layers.blank c (by simpa [or_assoc, or_comm, or_left_comm] using member)
  signed := fun c member => layers.signed c (by simpa [or_comm] using member)
  tight := ⟨by simpa using layers.tight.2, by simpa using layers.tight.1⟩
  solid := by simpa [and_comm] using layers.solid
  unsigned := by simpa [and_comm] using layers.unsigned

-- The layers at the front are those of the text, so that the name begins with a sign exactly where signs resume.
theorem Layers.resumes_iff (layers : Layers text name lead signs gap after trail tail) (filled : name ≠ []) :
    Resumes text ↔ ∃ c ∈ name.head?, Tag.isBoundarySign c = true := by
  obtain ⟨first, more, rfl⟩ := List.exists_cons_of_ne_nil filled
  have blankLead : ∀ c ∈ lead, isBlank c = true := fun c member => layers.blank c (by simp [member])
  have blankGap : ∀ c ∈ gap, isBlank c = true := fun c member => layers.blank c (by simp [member])
  have signed : ∀ c ∈ signs, Tag.isBoundarySign c = true := fun c member => layers.signed c (by simp [member])
  have solid : isBlank first = false := layers.tight.1 first rfl
  constructor
  · rintro ⟨otherLead, otherSigns, otherGap, c, rest, same, otherBlank, ⟨someSigns, otherSigned⟩, ⟨someGap, otherGapBlank⟩, sign⟩
    rw [layers.shape] at same
    obtain ⟨opening, moreSigns, rfl⟩ := List.exists_cons_of_ne_nil someSigns
    obtain ⟨space, moreGap, rfl⟩ := List.exists_cons_of_ne_nil someGap
    have signsStart : ∀ d ∈ (signs ++ (gap ++ (first :: more ++ (after ++ (trail ++ tail))))).head?, isBlank d = false := by
      cases signs with
      | nil =>
          rw [layers.solid.1 rfl]
          simpa using solid
      | cons s signs => simpa using sign_solid s (signed s List.mem_cons_self)
    have gapStart : ∀ d ∈ (gap ++ (first :: more ++ (after ++ (trail ++ tail)))).head?, Tag.isBoundarySign d = false := by
      cases gap with
      | nil => simpa using layers.unsigned.1 rfl
      | cons g gap => simpa using blank_unsigned g (blankGap g List.mem_cons_self)
    obtain ⟨_, same⟩ := front_unique isBlank lead otherLead _ _ blankLead otherBlank signsStart
      (by simpa using sign_solid opening (otherSigned opening List.mem_cons_self)) same
    obtain ⟨_, same⟩ := front_unique Tag.isBoundarySign signs (opening :: moreSigns) _ _ signed otherSigned gapStart
      (by simpa using blank_unsigned space (otherGapBlank space List.mem_cons_self)) same
    obtain ⟨_, same⟩ := front_unique isBlank gap (space :: moreGap) _ _ blankGap otherGapBlank (by simpa using solid)
      (by simpa using sign_solid c sign) same
    rw [List.cons_append, List.cons.injEq] at same
    exact ⟨first, rfl, same.1 ▸ sign⟩
  · rintro ⟨c, head, sign⟩
    cases head
    have someGap : gap ≠ [] := by
      intro none
      have unsigned := layers.unsigned.1 none first rfl
      rw [sign] at unsigned
      cases unsigned
    have someSigns : signs ≠ [] := fun none => someGap (layers.solid.1 none)
    exact ⟨lead, signs, gap, first, _, layers.shape, blankLead, ⟨someSigns, signed⟩, ⟨someGap, blankGap⟩, sign⟩

theorem normalize_layers (text : List Char) (filled : normalize text ≠ []) :
    ∃ lead signs gap after trail tail, Layers text (normalize text) lead signs gap after trail tail := by
  rw [normalize_strips] at filled ⊢
  obtain ⟨lead, tail, outer, blankLead, blankTail⟩ := strip_parts isBlank text
  have solid := strip_stripped isBlank text
  generalize strip isBlank text = solidText at filled outer solid ⊢
  obtain ⟨signs, trail, middle, signedFront, signedBack⟩ := strip_parts Tag.isBoundarySign solidText
  have unsigned := strip_stripped Tag.isBoundarySign solidText
  generalize strip Tag.isBoundarySign solidText = core at filled middle unsigned ⊢
  obtain ⟨gap, after, inner, blankGap, blankAfter⟩ := strip_parts isBlank core
  have tight := strip_stripped isBlank core
  generalize strip isBlank core = name at filled inner tight ⊢
  refine ⟨lead, signs, gap, after, trail, tail, ⟨?_, ?_, ?_, tight, ⟨?_, ?_⟩, ?_, ?_⟩⟩
  · rw [outer, middle, inner]
    simp
  · simp only [List.forall_mem_append]
    exact ⟨blankLead, blankGap, blankAfter, blankTail⟩
  · exact List.forall_mem_append.mpr ⟨signedFront, signedBack⟩
  · rintro rfl
    rw [middle, inner, List.nil_append, List.append_assoc] at solid
    exact stripped_front isBlank gap _ solid blankGap
  · rintro rfl
    rw [middle, inner, List.append_nil, ← List.append_assoc, ← List.append_assoc] at solid
    exact stripped_back isBlank _ after solid blankAfter
  · rintro rfl
    rw [inner, List.nil_append] at unsigned
    have first := unsigned.1
    rwa [List.head?_append_of_ne_nil _ filled] at first
  · rintro rfl
    rw [inner, List.append_nil] at unsigned
    have last := unsigned.2
    rwa [List.getLast?_append_of_ne_nil _ filled] at last

end Names

-- Neither end of a normalized text is a sign, unless signs resume there.
theorem normalize_unsigned (text : List Char) (filled : normalize text ≠ []) :
    Stripped Tag.isBoundarySign (normalize text) ↔ ¬Broken text := by
  obtain ⟨lead, signs, gap, after, trail, tail, layers⟩ := normalize_layers text filled
  rw [Broken, layers.resumes_iff filled, layers.reversed.resumes_iff (by simpa using filled), List.head?_reverse]
  simp only [Stripped, not_or, not_exists, not_and, Bool.not_eq_true]

theorem normalize_tight (text : List Char) : Tight (normalize text) :=
  trim_tightens _

theorem normalize_fixed (name : List Char) (tight : Tight name) :
    normalize name = name ↔ Stripped Tag.isBoundarySign name := by
  rw [normalize_strips, (strip_fixed isBlank name).mpr tight]
  constructor
  · intro fixed
    have inside := (strip_inside isBlank (strip Tag.isBoundarySign name)).sublist
    rw [fixed] at inside
    exact (strip_fixed _ name).mp ((strip_inside Tag.isBoundarySign name).sublist.antisymm inside)
  · intro unsigned
    rw [(strip_fixed _ name).mpr unsigned, (strip_fixed _ name).mpr tight]

end Catalog

namespace Collector

open Catalog

theorem name_of_some (raw : List Char) (name : String) (entered : nameOf? raw = some name) :
    name.toList = normalize raw ∧ normalize raw ≠ [] := by
  rw [nameOf?] at entered
  split at entered
  case isTrue => cases entered
  case isFalse accepted =>
    cases entered
    simp only [Bool.or_eq_true, not_or, List.isEmpty_iff] at accepted
    exact ⟨String.toList_ofList, accepted.1⟩

-- A name that is its own normal form is entered as it is.
theorem name_of_again (raw : List Char) (name : String) (entered : nameOf? raw = some name)
    (fixed : normalize name.toList = name.toList) : nameOf? name.toList = some name := by
  rw [← entered, nameOf?, nameOf?, fixed, (name_of_some raw name entered).1]

theorem name_fixed_iff (raw : List Char) (name : String) (entered : nameOf? raw = some name) :
    normalize name.toList = name.toList ↔ ¬Broken raw := by
  obtain ⟨same, filled⟩ := name_of_some raw name entered
  rw [same, normalize_fixed _ (normalize_tight raw), normalize_unsigned raw filled]

section Registering

variable (collector : Collector) (raw : List Char)

theorem register_found (entry : Entry) (registered : (collector.register raw).entryFor? raw = some entry) :
    nameOf? raw = some entry.name ∧ (collector.register raw).find? entry.name = some entry := by
  rw [entryFor?, Option.bind_eq_some_iff] at registered
  obtain ⟨name, entered, found⟩ := registered
  obtain rfl := find_name _ name entry found
  exact ⟨entered, found⟩

theorem register_known (name : String) (entered : nameOf? raw = some name) (known : (collector.find? name).isSome = true) :
    collector.register raw = collector := by
  rw [register, entered]
  exact if_pos known

-- A registered name is registered again as the same entry exactly if it is in normal form.
theorem register_again (entry : Entry) (registered : (collector.register raw).entryFor? raw = some entry) :
    (((collector.register raw).register entry.name.toList).entryFor? entry.name.toList = some entry ∧
      (collector.register raw).register entry.name.toList = collector.register raw) ↔
    normalize entry.name.toList = entry.name.toList := by
  obtain ⟨entered, found⟩ := register_found collector raw entry registered
  constructor
  · rintro ⟨again, _⟩
    obtain ⟨enteredAgain, _⟩ := register_found _ _ entry again
    exact (name_of_some _ _ enteredAgain).1.symm
  · intro fixed
    have enteredAgain := name_of_again raw entry.name entered fixed
    have unchanged : (collector.register raw).register entry.name.toList = collector.register raw :=
      register_known _ _ entry.name enteredAgain (by rw [found]; rfl)
    refine ⟨?_, unchanged⟩
    rw [unchanged, entryFor?, enteredAgain]
    exact found

end Registering

-- Whatever was called before, a registered name is trimmed; it is free of signs at its ends, its own normal form and known
-- under itself, exactly if signs do not resume at an end of what was registered. A catalogue has names in normal form only
-- if that holds of everything that was entered in it.
theorem registered_names_normal (calls : List Call) :
    (∀ raw entry, ((run calls).register raw).entryFor? raw = some entry →
      (entry.name ≠ "" ∧ Tight entry.name.toList) ∧
      (Stripped Tag.isBoundarySign entry.name.toList ↔ ¬Broken raw) ∧
      (normalize entry.name.toList = entry.name.toList ↔ ¬Broken raw) ∧
      ((((run calls).register raw).register entry.name.toList).entryFor? entry.name.toList = some entry ∧
        ((run calls).register raw).register entry.name.toList = (run calls).register raw ↔ ¬Broken raw)) ∧
    ((∀ name ∈ (run calls).names, normalize name.toList = name.toList) ↔
      ∀ find ∈ calls.flatMap Call.finds, (nameOf? find.raw).isSome = true → ¬Broken find.raw) := by
  refine ⟨fun raw entry registered => ?_, ?_⟩
  · obtain ⟨entered, _⟩ := register_found _ raw entry registered
    obtain ⟨same, filled⟩ := name_of_some raw entry.name entered
    have fixed := name_fixed_iff raw entry.name entered
    refine ⟨⟨?_, same ▸ normalize_tight raw⟩, ?_, fixed, (register_again _ raw entry registered).trans fixed⟩
    · rintro empty
      rw [empty] at same
      exact filled same.symm
    · rw [same]
      exact normalize_unsigned raw filled
  · rw [run_seen, ← seen]
    simp only [seen_names, Option.isSome_iff_exists]
    constructor
    · rintro normal find member ⟨name, entered⟩
      exact (name_fixed_iff find.raw name entered).mp (normal name ⟨find, member, entered⟩)
    · rintro unbroken name ⟨find, member, entered⟩
      exact (name_fixed_iff find.raw name entered).mpr (unbroken find member ⟨name, entered⟩)

-- One layer of blanks and signs at either end comes off.
theorem errands_normal :
    ((run errands).register " -体力 * ".toList).entryFor? " -体力 * ".toList = some { name := "体力", isOnBar := true } ∧
    Stripped Tag.isBoundarySign "体力".toList ∧ normalize "体力".toList = "体力".toList ∧
    ((run errands).register " -体力 * ".toList).register "体力".toList = (run errands).register " -体力 * ".toList ∧
    ∀ find ∈ errands.flatMap Call.finds, (nameOf? find.raw).isSome = true → ¬Broken find.raw := by
  obtain ⟨entries, catalogue⟩ := registered_names_normal errands
  have found : run errands = ⟨[{ name := "金币", isAccumulative := true }, { name := "体力", isOnBar := true },
      { name := "coin" }]⟩ := by decide +kernel
  have registered : ((run errands).register " -体力 * ".toList).entryFor? " -体力 * ".toList =
      some { name := "体力", isOnBar := true } := by
    rw [found]
    decide +kernel
  have normal : ∀ name ∈ (run errands).names, normalize name.toList = name.toList := by
    rw [found]
    decide +kernel
  have unsigned : Stripped Tag.isBoundarySign "体力".toList := ⟨by decide, by decide⟩
  obtain ⟨_, unbroken, fixed, again⟩ := entries _ _ registered
  have whole := unbroken.mp unsigned
  exact ⟨registered, unsigned, fixed.mpr whole, (again.mpr whole).2, catalogue.mp normal⟩

-- Signs that resume behind a blank stay at the name, and its own name is entered as another variable.
theorem resumed_name_doubled :
    ((run []).register "+ +gold".toList).entryFor? "+ +gold".toList = some { name := "+gold" } ∧
    normalize "+gold".toList = "gold".toList ∧
    (run [.register "+ +gold", .register "+gold"]).names = ["+gold", "gold"] := by
  decide +kernel

end Collector

end TaggedStory
