import TaggedStory.Proofs.Node.Features
/-!
What a video shows beside its picture: the variable bar, and the products in the order of their tag.
-/
set_option autoImplicit false

namespace TaggedStory.Video

open Text Scanner Tag Mark

section Bars

theorem hex_range (c : Char) (hex : isHexDigit c = true) : 48 ≤ c.toNat ∧ c.toNat ≤ 102 := by
  have bounds : ∀ low high : Char, low ≤ c ∧ c ≤ high → low.toNat ≤ c.toNat ∧ c.toNat ≤ high.toNat := fun low high within => by
    simpa [Char.le_def, UInt32.le_iff_toNat_le] using within
  rw [isHexDigit, Json.hexValue?] at hex
  by_cases digit : '0' ≤ c ∧ c ≤ '9'
  · have range := bounds '0' '9' digit
    simp only [Char.reduceToNat] at range
    omega
  · by_cases small : 'a' ≤ c ∧ c ≤ 'f'
    · have range := bounds 'a' 'f' small
      simp only [Char.reduceToNat] at range
      omega
    · by_cases large : 'A' ≤ c ∧ c ≤ 'F'
      · have range := bounds 'A' 'F' large
        simp only [Char.reduceToNat] at range
        omega
      · simp [digit, small, large] at hex

theorem hex_solid (c : Char) (hex : isHexDigit c = true) : isBlank c = false := by
  have range := hex_range c hex
  simp only [isBlank, Bool.or_eq_false_iff, Bool.and_eq_false_iff, decide_eq_false_iff_not, beq_eq_false_iff_ne]
  omega

theorem hex_quiet (c : Char) (hex : isHexDigit c = true) : isOpening c = false ∧ isWide c = false := by
  have range := hex_range c hex
  constructor
  · cases opening : isOpening c with
    | false => rfl
    | true =>
        simp only [isOpening, Bool.or_eq_true, beq_iff_eq, or_assoc] at opening
        rcases opening with rfl | rfl | rfl | rfl <;> exact absurd hex (by decide)
  · simp only [isWide, Bool.or_eq_false_iff, Bool.and_eq_false_iff, decide_eq_false_iff_not, beq_eq_false_iff_ne]
    omega

inductive Barred (video : Video) : Prop where
  | bare (off : video.showVariableBar = false) (name : video.variableBarName = "")
      (color : video.variableBarColor = "#ffffff") (position : video.variableBarPosition = "上")
  | bar (hex : List Char) (place : Char) (on : video.showVariableBar = true) (name : Plain video.variableBarName)
      (noSign : ∀ c ∈ [':', '#'], c ∉ video.variableBarName.toList)
      (color : video.variableBarColor = String.ofList ('#' :: hex)) (six : hex.length = 6)
      (digits : ∀ c ∈ hex, isHexDigit c = true) (position : video.variableBarPosition = String.ofList [place])
      (known : place = '上' ∨ place = '下')

def barPiece (video : Video) : List Char :=
  (variableBarTag video).toList

def barBody (name hex : List Char) (place : Char) : List Char :=
  name ++ ':' :: '#' :: (hex ++ [':', place])

theorem bar_written (video : Video) (hex : List Char) (place : Char) (on : video.showVariableBar = true)
    (name : video.variableBarName ≠ "") (color : video.variableBarColor = String.ofList ('#' :: hex))
    (position : video.variableBarPosition = String.ofList [place]) :
    barPiece video = "[变量条:".toList ++ (barBody video.variableBarName.toList hex place ++ [']']) := by
  have colored : orElse video.variableBarColor "#ffffff" = String.ofList ('#' :: hex) := by
    rw [color]
    exact if_neg (by simp [← String.toList_inj])
  have placed : orElse video.variableBarPosition "上" = String.ofList [place] := by
    rw [position]
    exact if_neg (by simp [← String.toList_inj])
  simp [barPiece, variableBarTag, barBody, on, name, colored, placed]

theorem bar_bracketed (video : Video) (barred : Barred video) : Bracketed "[变量条:" (barPiece video) := by
  cases barred with
  | bare off =>
      have none : barPiece video = [] := by simp [barPiece, variableBarTag, off]
      rw [none]
      exact bracketed_empty _
  | bar hex place on name _ color _ digits position known =>
      rw [bar_written video hex place on name.nonempty color position]
      refine bracketed_valued _ _ (by decide) (by decide) fun c member => ?_
      simp only [barBody, List.mem_append, List.mem_cons, List.not_mem_nil, or_false] at member
      rcases member with member | rfl | rfl | member | rfl | rfl
      · exact plain_quiet _ name c member
      · decide
      · decide
      · exact hex_quiet c (digits c member)
      · decide
      · rcases known with rfl | rfl <;> decide

theorem reads_bar (name : String) (hex : List Char) (place : Char) (plain : Plain name)
    (noSign : ∀ c ∈ [':', '#'], c ∉ name.toList) (six : hex.length = 6) (digits : ∀ c ∈ hex, isHexDigit c = true)
    (known : place = '上' ∨ place = '下') :
    Reads variableBar ("[变量条:".toList ++ (barBody name.toList hex place ++ [']'])) ⟨name.toList, hex, place⟩ := by
  intro rest
  have letters : ∀ c ∈ name.toList, isBarName c = true := by
    intro c member
    have narrow : c ≠ ':' := fun same => noSign ':' (by decide) (same ▸ member)
    have hash : c ≠ '#' := fun same => noSign '#' (by decide) (same ▸ member)
    have wide : c ≠ '：' := fun same => by
      have half := plain.halfWidth c member
      rw [same] at half
      exact absurd half (by decide)
    have closing : c ≠ ']' := fun same => plain.absent ']' (by decide) (same ▸ member)
    simp [isBarName, narrow, hash, wide, closing]
  have named := run_many1 isBarName name.toList ':' ('#' :: (hex ++ ':' :: place :: ']' :: rest))
    plain.nonempty_list letters (by decide)
  have solid := run_blanks_solid (hex ++ ':' :: place :: ']' :: rest) (by
    intro c head
    cases hex with
    | nil => cases six
    | cons d hex =>
        rw [List.cons_append, List.head?_cons, Option.mem_some] at head
        exact hex_solid c (digits c (head ▸ List.mem_cons_self)))
  have colored : StateT.run hexColor (hex ++ ':' :: place :: ']' :: rest) = some (hex, ':' :: place :: ']' :: rest) := by
    have front : (hex ++ ':' :: place :: ']' :: rest).take 6 = hex := List.take_left' six
    have back : (hex ++ ':' :: place :: ']' :: rest).drop 6 = ':' :: place :: ']' :: rest := List.drop_left' six
    have all : hex.all isHexDigit = true := List.all_eq_true.mpr digits
    change (if (_ && _) = true then _ else none) = _
    simp only [front, back, six, all]
    rfl
  have shape : "[变量条:".toList ++ (barBody name.toList hex place ++ [']']) ++ rest =
      "[变量条:".toList ++ (name.toList ++ ':' :: '#' :: (hex ++ ':' :: place :: ']' :: rest)) := by simp [barBody]
  rw [shape]
  refine (bind_succeeds _ _ _ _ _).mpr ⟨(), "变量条:".toList ++ _, rfl, ?_⟩
  refine (bind_succeeds _ _ _ _ _).mpr ⟨(), _, rfl, ?_⟩
  refine (bind_succeeds _ _ _ _ _).mpr ⟨(), ':' :: _, rfl, ?_⟩
  refine (bind_succeeds _ _ _ _ _).mpr ⟨(), _, rfl, ?_⟩
  refine (bind_succeeds _ _ _ _ _).mpr ⟨(), _, rfl, ?_⟩
  refine (bind_succeeds _ _ _ _ _).mpr ⟨_, _, named, ?_⟩
  refine (bind_succeeds _ _ _ _ _).mpr ⟨(), _, rfl, ?_⟩
  refine (bind_succeeds _ _ _ _ _).mpr ⟨(), _, rfl, ?_⟩
  refine (bind_succeeds _ _ _ _ _).mpr ⟨some (), _, rfl, ?_⟩
  refine (bind_succeeds _ _ _ _ _).mpr ⟨(), _, solid, ?_⟩
  refine (bind_succeeds _ _ _ _ _).mpr ⟨_, _, colored, ?_⟩
  refine (bind_succeeds _ _ _ _ _).mpr ⟨(), _, rfl, ?_⟩
  refine (bind_succeeds _ _ _ _ _).mpr ⟨(), place :: ']' :: rest, rfl, ?_⟩
  rcases known with rfl | rfl <;> rfl

def putBar (video so : Video) : Video :=
  { so with
    showVariableBar := video.showVariableBar, variableBarName := video.variableBarName
    variableBarColor := video.variableBarColor, variableBarPosition := video.variableBarPosition }

theorem bar_step (video : Video) (barred : Barred video) (rest : List Char) (so : NodeOf Video) (tight : Tight rest)
    (absent : variableBar.first? rest = none) (fresh : putBar {} so.body = so.body) :
    (onBody "variable_bar" variableBar setVariableBar).apply (barPiece video ++ rest, so) =
      .ok (rest, so.updateBody (putBar video)) := by
  cases barred with
  | bare off name color position =>
      have unset : putBar video = putBar {} := by
        funext so
        rw [putBar, off, name, color, position]
        rfl
      have none : barPiece video = [] := by simp [barPiece, variableBarTag, off]
      refine Rule.first_tag _ _ _ _ rest ⟨[], [], ' '⟩ so _ tight (.inl ⟨none, absent, ?_⟩)
      rw [unset, NodeOf.updateBody, fresh]
  | bar hex place on name noSign color six digits position known =>
      have set : setVariableBar ⟨video.variableBarName.toList, hex, place⟩ = putBar video := by
        funext so
        rw [setVariableBar, plain_text_trimmed _ name, putBar, on, color, position]
      rw [bar_written video hex place on name.nonempty color position]
      refine Rule.first_tag _ _ _ _ rest _ so _ tight (.inr ⟨by simp, ?_, by rw [← set]⟩)
      exact reads_bar video.variableBarName hex place name noSign six digits known

end Bars

section Products

inductive Shown (video : Video) : Prop where
  | nothing (off : video.isShowcase = false) (products : video.showcaseProducts = [])
  | products (on : video.isShowcase = true)
      (each : ∀ product ∈ video.showcaseProducts, Plain product ∧ ';' ∉ product.toList)

def productsBody (products : List String) : List Char :=
  [';'].intercalate (products.map String.toList)

def showcasePiece (video : Video) : List Char :=
  (tagIf video.isShowcase ("[带货节点:" ++ ";".intercalate video.showcaseProducts ++ "]")).toList

theorem showcase_written (video : Video) (on : video.isShowcase = true) :
    showcasePiece video = "[带货节点:".toList ++ (productsBody video.showcaseProducts ++ [']']) := by
  simp [showcasePiece, tagIf, on, productsBody, String.toList_intercalate]

theorem split_on_piece (separator : Char) (part : List Char) (absent : separator ∉ part) (rest : List Char) :
    splitOn separator (part ++ separator :: rest) = part :: splitOn separator rest := by
  induction part with
  | nil => rw [List.nil_append, splitOn, if_pos rfl]
  | cons c part ih =>
      rw [List.mem_cons, not_or] at absent
      rw [List.cons_append, splitOn, if_neg (Ne.symm absent.1), ih absent.2]

theorem split_on_last (separator : Char) (part : List Char) (absent : separator ∉ part) :
    splitOn separator part = [part] := by
  induction part with
  | nil => rfl
  | cons c part ih =>
      rw [List.mem_cons, not_or] at absent
      rw [splitOn, if_neg (Ne.symm absent.1), ih absent.2]

theorem split_on_joined (separator : Char) (parts : List (List Char)) (nonempty : parts ≠ [])
    (absent : ∀ part ∈ parts, separator ∉ part) : splitOn separator ([separator].intercalate parts) = parts := by
  induction parts with
  | nil => exact absurd rfl nonempty
  | cons part parts ih =>
      cases parts with
      | nil =>
          rw [List.intercalate_singleton]
          exact split_on_last separator part (absent part List.mem_cons_self)
      | cons next parts =>
          rw [List.intercalate_cons_cons, List.append_assoc, List.singleton_append,
            split_on_piece separator part (absent part List.mem_cons_self),
            ih (List.cons_ne_nil _ _) fun other member => absent other (List.mem_cons_of_mem part member)]

section Listed

variable (products : List String) (each : ∀ product ∈ products, Plain product ∧ ';' ∉ product.toList)

include each

theorem products_tame : Tame ['[', ']', '《', '<', '\x7b'] (productsBody products) := by
  rw [productsBody]
  induction products with
  | nil => exact Tame.nil
  | cons product products ih =>
      have first := Tame.plain product (each product List.mem_cons_self).1
        (show ∀ c ∈ ['[', ']', '《', '<', '\x7b'], isSign c = true by decide)
      cases products with
      | nil => simpa using first
      | cons next products =>
          have later := ih fun other member => each other (List.mem_cons_of_mem product member)
          rw [List.map_cons, List.map_cons, List.intercalate_cons_cons]
          exact Tame.append _ _ (Tame.append _ _ first ⟨by simp [Tight]; decide, by decide, by decide⟩) later

theorem products_listed : productList (productsBody products) = products := by
  by_cases none : products = []
  · rw [none]
    rfl
  · have parts : splitOn ';' (productsBody products) = products.map String.toList := by
      refine split_on_joined ';' _ (by simpa using none) fun part member => ?_
      obtain ⟨product, present, rfl⟩ := List.mem_map.mp member
      exact (each product present).2
    have trimmed : (products.map String.toList).map trim = products.map String.toList := by
      rw [List.map_map]
      exact List.map_congr_left fun product member => (each product member).1.trimmed
    have filled : (products.map String.toList).filter (fun product => !product.isEmpty) = products.map String.toList := by
      refine List.filter_eq_self.mpr fun part member => ?_
      obtain ⟨product, present, rfl⟩ := List.mem_map.mp member
      simpa using (each product present).1.nonempty
    rw [productList, parts, trimmed, filled, List.map_map]
    simp [Function.comp_def]

end Listed

theorem showcase_bracketed (video : Video) (shown : Shown video) : Bracketed "[带货节点:" (showcasePiece video) := by
  cases shown with
  | nothing off =>
      have none : showcasePiece video = [] := by rw [showcasePiece, off]; rfl
      rw [none]
      exact bracketed_empty _
  | products on each =>
      have tame := products_tame video.showcaseProducts each
      rw [showcase_written video on]
      refine bracketed_valued _ _ (by decide) (by decide) fun c member => ⟨?_, tame.half c member⟩
      cases opening : isOpening c with
      | false => rfl
      | true =>
          have sign := tame.clear c member
          simp only [isOpening, Bool.or_eq_true, beq_iff_eq, or_assoc] at opening
          rcases opening with rfl | rfl | rfl | rfl <;> exact absurd (by decide) sign

theorem reads_showcase (body : List Char) (absent : ']' ∉ body) :
    Reads showcase ("[带货节点:".toList ++ (body ++ [']'])) body := by
  intro rest
  have inner := run_many (· ≠ ']') body ']' rest (fun c member => decide_eq_true fun same => absent (same ▸ member)) (by decide)
  rw [List.append_assoc, List.append_assoc, List.singleton_append]
  refine (bind_succeeds _ _ _ _ _).mpr ⟨(), ':' :: (body ++ ']' :: rest), reads_word "[带货节点" _, ?_⟩
  refine (bind_succeeds _ _ _ _ _).mpr ⟨(), _, rfl, ?_⟩
  refine (bind_succeeds _ _ _ _ _).mpr ⟨_, _, inner, ?_⟩
  exact (bind_succeeds _ _ _ _ _).mpr ⟨(), rest, rfl, rfl⟩

def putShowcase (video so : Video) : Video :=
  { so with isShowcase := video.isShowcase, showcaseProducts := video.showcaseProducts }

-- Without products the list stays as it is, that is, empty.
theorem showcase_set (products : List String) (each : ∀ product ∈ products, Plain product ∧ ';' ∉ product.toList)
    (so : Video) (fresh : so.showcaseProducts = []) :
    setShowcase (productsBody products) so = { so with isShowcase := true, showcaseProducts := products } := by
  have tame := products_tame products each
  have listed := products_listed products each
  rw [setShowcase, trim_tight _ tame.tight]
  by_cases empty : (productsBody products).isEmpty = true
  · have none : products = [] := by
      rw [List.isEmpty_iff] at empty
      rw [empty] at listed
      exact listed.symm
    simp only [empty, if_true]
    rw [none, ← fresh]
  · simp only [empty, listed]
    rfl

theorem showcase_step (video : Video) (shown : Shown video) (rest : List Char) (so : NodeOf Video) (tight : Tight rest)
    (absent : showcase.first? rest = none) (fresh : putShowcase {} so.body = so.body) :
    (onBody "showcase" showcase setShowcase).apply (showcasePiece video ++ rest, so) =
      .ok (rest, so.updateBody (putShowcase video)) := by
  cases shown with
  | nothing off products =>
      have unset : putShowcase video = putShowcase {} := by
        funext so
        rw [putShowcase, off, products]
        rfl
      refine Rule.first_tag _ _ _ _ rest [] so _ tight (.inl ⟨by rw [showcasePiece, off]; rfl, absent, ?_⟩)
      rw [unset, NodeOf.updateBody, fresh]
  | products on each =>
      have empty : so.body.showcaseProducts = [] := by rw [← fresh]; rfl
      have noClosing := (products_tame video.showcaseProducts each).absent ']' (by decide)
      rw [showcase_written video on]
      refine Rule.first_tag _ _ _ _ rest _ so _ tight (.inr ⟨by simp, reads_showcase _ noClosing, ?_⟩)
      rw [NodeOf.updateBody, putShowcase, on, ← showcase_set _ each so.body empty]
      rfl

end Products

end TaggedStory.Video
