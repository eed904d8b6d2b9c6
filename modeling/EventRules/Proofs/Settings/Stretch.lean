import Mathlib.Data.List.Chain
import Mathlib.Data.List.Infix
import EventRules.Proofs.Outcome
import EventRules.Settings.Reference

/-!
# Stretch — what a text with references consists of

From the left a text falls into literals, which are as long as can be, and references; a reference that
is not closed takes in what is left.  There is one way to split a text like that, and to replace its
references is to replace each stretch by what it stands for, once.

* `Splits` — a text and its stretches, `existsUnique_splits` — that there is one way;
* `pieces_of_splits` — the parts that the scanner finds;
* `Environment.expand_of_splits`, `Environment.expand_of_faults` — what becomes of a text.
-/

namespace EventRules

inductive Stretch where
  | literal (text : List Char)
  | reference (name : List Char)
  /-- A reference that is not closed, up to the end of the text. -/
  | unclosed (rest : List Char)

namespace Stretch

/-- What a reference begins with. -/
def opening : List Char := ['$', '\x7b']

def spelled : Stretch → List Char
  | .literal text => text
  | .reference name => opening ++ (name ++ ['\x7d'])
  | .unclosed rest => opening ++ rest

/-- A literal opens no reference, and what is behind an opening closes none. -/
def IsProper : Stretch → Prop
  | .literal text => text ≠ [] ∧ ¬ opening <:+: text
  | .reference name => '\x7d' ∉ name
  | .unclosed rest => '\x7d' ∉ rest

def isLiteral : Stretch → Bool
  | .literal _ => true
  | _ => false

def isUnclosed : Stretch → Bool
  | .unclosed _ => true
  | _ => false

/-- Two literals would be one, and nothing follows what is not closed. -/
def Precedes (before after : Stretch) : Prop :=
  ¬ (before.isLiteral ∧ after.isLiteral) ∧ ¬ before.isUnclosed

/-- The parts of a text that make up a stretch. -/
def pieces : Stretch → List Piece
  | .literal text => text.map .literal
  | .reference name => [.reference name]
  | .unclosed _ => [.unclosed]

end Stretch

open Stretch (opening)

/-- A text and the stretches that it consists of. -/
structure Splits (text : List Char) (stretches : List Stretch) : Prop where
  spelled : stretches.flatMap Stretch.spelled = text
  proper : ∀ stretch ∈ stretches, stretch.IsProper
  chained : stretches.IsChain Stretch.Precedes

namespace Splits

variable {text rest : List Char} {stretch : Stretch} {stretches others : List Stretch}

theorem nil : Splits [] [] := ⟨rfl, nofun, .nil⟩

theorem cons (stretch : Stretch) (proper : stretch.IsProper)
    (precedes : ∀ next ∈ stretches.head?, stretch.Precedes next) (h : Splits rest stretches) : Splits (stretch.spelled ++ rest) (stretch :: stretches) where
  spelled := by rw [List.flatMap_cons, h.spelled]
  proper := List.forall_mem_cons.2 ⟨proper, h.proper⟩
  chained := List.isChain_cons.2 ⟨precedes, h.chained⟩

theorem tail (h : Splits text (stretch :: stretches)) :
    ∃ rest, text = stretch.spelled ++ rest ∧ Splits rest stretches :=
  ⟨_, h.spelled.symm, rfl, fun own hown => h.proper own (List.mem_cons_of_mem _ hown),
    (List.isChain_cons.1 h.chained).2⟩

theorem eq_nil_of_unclosed {own : List Char} (h : Splits text (.unclosed own :: stretches)) :
    stretches = [] := by
  cases stretches with
  | nil =>
      rfl
  | cons next stretches =>
      exact absurd rfl ((List.isChain_cons.1 h.chained).1 next rfl).2

/-- Unless it begins with a literal, a text begins with an opening. -/
theorem head_eq_dollar (h : Splits text stretches) (noLiteral : ∀ own, .literal own ∉ stretches.head?) :
    ∀ c ∈ text.head?, c = '$' := by
  intro c hc
  cases stretches with
  | nil =>
      rw [← h.spelled] at hc
      cases hc
  | cons first stretches =>
      obtain ⟨rest, rfl, -⟩ := h.tail
      cases first with
      | literal own =>
          exact absurd rfl (noLiteral own)
      | reference name =>
          cases hc
          rfl
      | unclosed own =>
          cases hc
          rfl

/-! ## Stretches of every text -/

/-- A character in front belongs to a literal, unless it opens a reference. -/
theorem exists_cons (h : Splits rest stretches) {c : Char} (hopening : ¬ opening <+: c :: rest) :
    ∃ others, Splits (c :: rest) others := by
  have hsingle : ¬ opening <:+: [c] := fun inside => by
    have hlength := inside.length_le
    simp [opening] at hlength
  cases stretches with
  | nil =>
      exact ⟨_, h.cons (.literal [c]) ⟨by simp, hsingle⟩ (by simp)⟩
  | cons first stretches =>
      cases first with
      | literal own =>
          obtain ⟨behind, rfl, htail⟩ := h.tail
          obtain ⟨-, hown⟩ := h.proper _ List.mem_cons_self
          have hinside : ¬ opening <:+: c :: own := by
            rw [List.infix_cons_iff, not_or]
            refine ⟨fun hbegins => hopening ?_, hown⟩
            exact hbegins.trans (List.prefix_append (c :: own) behind)
          exact ⟨.literal (c :: own) :: stretches,
            htail.cons (.literal (c :: own)) ⟨by simp, hinside⟩ (List.isChain_cons.1 h.chained).1⟩
      | reference name =>
          exact ⟨_, h.cons (.literal [c]) ⟨by simp, hsingle⟩ (by simp [Stretch.Precedes, Stretch.isLiteral, Stretch.isUnclosed])⟩
      | unclosed own =>
          exact ⟨_, h.cons (.literal [c]) ⟨by simp, hsingle⟩ (by simp [Stretch.Precedes, Stretch.isLiteral, Stretch.isUnclosed])⟩

end Splits

theorem exists_splits (text : List Char) : ∃ stretches, Splits text stretches := by
  -- a reference takes in several characters, so what is left is shorter but not the rest of the list
  induction hlength : text.length using Nat.strong_induction_on generalizing text with
  | _ length ih =>
    subst hlength
    by_cases hopening : opening <+: text
    · obtain ⟨behind, rfl⟩ := hopening
      by_cases hclosing : '\x7d' ∈ behind
      · obtain ⟨name, rest, rfl, hname⟩ := List.eq_append_cons_of_mem hclosing
        obtain ⟨stretches, h⟩ := ih rest.length (by simp [opening]; omega) rest rfl
        have hsplits := h.cons (.reference name) hname (by simp [Stretch.Precedes, Stretch.isLiteral, Stretch.isUnclosed])
        simp only [Stretch.spelled, List.append_assoc, List.singleton_append] at hsplits
        exact ⟨_, hsplits⟩
      · have hsplits := Splits.nil.cons (.unclosed behind) hclosing (by simp)
        rw [List.append_nil] at hsplits
        exact ⟨_, hsplits⟩
    · cases text with
      | nil =>
          exact ⟨[], .nil⟩
      | cons c rest =>
          obtain ⟨stretches, h⟩ := ih rest.length (by simp) rest rfl
          exact h.exists_cons hopening

/-! ## What the scanner finds -/

theorem referencePieces_closed {name : List Char} (h : '\x7d' ∉ name) (before rest : List Char) :
    referencePieces before (name ++ '\x7d' :: rest) =
      .reference (before.reverse ++ name) :: pieces rest := by
  induction name generalizing before with
  | nil =>
      rw [List.nil_append, referencePieces, if_pos rfl, List.append_nil]
  | cons c name ih =>
      obtain ⟨hc, hname⟩ := not_or.1 (mt List.mem_cons.2 h)
      rw [List.cons_append, referencePieces, if_neg fun same => hc same.symm, ih hname]
      simp

theorem referencePieces_unclosed {rest : List Char} (h : '\x7d' ∉ rest) (before : List Char) :
    referencePieces before rest = [.unclosed] := by
  induction rest generalizing before with
  | nil =>
      rfl
  | cons c rest ih =>
      obtain ⟨hc, hrest⟩ := not_or.1 (mt List.mem_cons.2 h)
      rw [referencePieces, if_neg fun same => hc same.symm, ih hrest]

/-- Nothing in a literal opens a reference, not even together with what follows. -/
theorem pieces_literal_append {text : List Char} (h : ¬ opening <:+: text) {rest : List Char}
    (hrest : ∀ c ∈ rest.head?, c = '$') :
    pieces (text ++ rest) = text.map .literal ++ pieces rest := by
  induction text with
  | nil =>
      rfl
  | cons c text ih =>
      obtain ⟨hfirst, hinside⟩ := not_or.1 (mt List.infix_cons_iff.2 h)
      rw [List.cons_append, pieces, ih hinside, List.map_cons, List.cons_append]
      rintro after rfl hafter
      cases text with
      | nil =>
          rw [List.nil_append] at hafter
          exact absurd (hrest _ (by rw [hafter]; rfl)) (by decide)
      | cons own text =>
          obtain ⟨rfl, -⟩ := List.cons_eq_cons.1 hafter
          exact hfirst (List.prefix_append opening text)

theorem pieces_of_splits {text : List Char} {stretches : List Stretch} (h : Splits text stretches) :
    pieces text = stretches.flatMap Stretch.pieces := by
  induction stretches generalizing text with
  | nil =>
      rw [← h.spelled]
      rfl
  | cons first stretches ih =>
      obtain ⟨rest, rfl, htail⟩ := h.tail
      have proper := h.proper first List.mem_cons_self
      have precedes := (List.isChain_cons.1 h.chained).1
      rw [List.flatMap_cons, ← ih htail]
      cases first with
      | literal own =>
          refine pieces_literal_append proper.2 (htail.head_eq_dollar fun next hnext => ?_)
          exact (precedes _ hnext).1 ⟨rfl, rfl⟩
      | reference name =>
          simp only [Stretch.spelled, opening, List.append_assoc, List.cons_append, List.nil_append,
            pieces]
          exact referencePieces_closed proper [] rest
      | unclosed own =>
          obtain rfl := h.eq_nil_of_unclosed
          rw [← htail.spelled, List.flatMap_nil, List.append_nil]
          exact referencePieces_unclosed proper []

/-! ## One way to split a text -/

/-- A part of a literal. -/
def Piece.isLiteral : Piece → Bool
  | .literal _ => true
  | _ => false

theorem takeWhile_isLiteral (text : List Char) {behind : List Piece}
    (h : ∀ piece ∈ behind.head?, piece.isLiteral = false) :
    (text.map Piece.literal ++ behind).takeWhile Piece.isLiteral = text.map .literal := by
  rw [List.takeWhile_append_of_pos fun piece hpiece => ?_]
  · cases behind with
    | nil =>
        exact List.append_nil _
    | cons piece behind =>
        rw [List.takeWhile_cons_of_neg (by simp [h piece rfl]), List.append_nil]
  · obtain ⟨c, -, rfl⟩ := List.mem_map.1 hpiece
    rfl

namespace Splits

variable {text : List Char} {stretches others : List Stretch}

/-- Behind a literal there is a part of another kind. -/
theorem head_pieces_behind {own : List Char} (h : Splits text (.literal own :: stretches)) :
    ∀ piece ∈ (stretches.flatMap Stretch.pieces).head?, piece.isLiteral = false := by
  intro piece hpiece
  cases stretches with
  | nil =>
      cases hpiece
  | cons next stretches =>
      have precedes := (List.isChain_cons.1 h.chained).1 next rfl
      cases next with
      | literal other =>
          exact absurd ⟨rfl, rfl⟩ precedes.1
      | reference name =>
          cases hpiece
          rfl
      | unclosed rest =>
          cases hpiece
          rfl

/-- The stretch that a text begins with, told from its parts. -/
def leading (text : List Char) (parts : List Piece) : Option Stretch :=
  match parts with
  | [] => none
  | .literal _ :: _ => some (.literal (text.take (parts.takeWhile Piece.isLiteral).length))
  | .reference name :: _ => some (.reference name)
  | .unclosed :: _ => some (.unclosed (text.drop opening.length))

theorem leading_eq {first : Stretch} (h : Splits text (first :: stretches)) :
    leading text (pieces text) = some first := by
  rw [pieces_of_splits h, ← h.spelled, List.flatMap_cons, List.flatMap_cons]
  cases first with
  | literal own =>
      obtain ⟨hne, -⟩ := h.proper _ List.mem_cons_self
      obtain ⟨c, behind, rfl⟩ := List.exists_cons_of_ne_nil hne
      have literals := takeWhile_isLiteral (c :: behind) h.head_pieces_behind
      simp only [Stretch.pieces, Stretch.spelled, List.map_cons, List.cons_append, leading]
        at literals ⊢
      rw [literals, ← List.map_cons, List.length_map, ← List.cons_append, List.take_left]
  | reference name =>
      rfl
  | unclosed own =>
      rw [h.eq_nil_of_unclosed]
      simp [Stretch.pieces, Stretch.spelled, leading]

theorem unique (h : Splits text stretches) (h' : Splits text others) : stretches = others := by
  induction stretches generalizing text others with
  | nil =>
      cases others with
      | nil =>
          rfl
      | cons second others =>
          have none := h'.leading_eq
          rw [← h.spelled] at none
          cases none
  | cons first stretches ih =>
      cases others with
      | nil =>
          have none := h.leading_eq
          rw [← h'.spelled] at none
          cases none
      | cons second others =>
          obtain rfl : first = second := Option.some.inj (h.leading_eq.symm.trans h'.leading_eq)
          obtain ⟨rest, rfl, htail⟩ := h.tail
          obtain ⟨rest', hrest, htail'⟩ := h'.tail
          rw [List.append_cancel_left hrest] at htail
          rw [ih htail htail']

end Splits

/-- There is one way to split a text. -/
theorem existsUnique_splits (text : List Char) : ∃! stretches, Splits text stretches := by
  obtain ⟨stretches, h⟩ := exists_splits text
  exact ⟨stretches, h, fun others h' => h'.unique h⟩

/-! ## What stretches stand for -/

namespace Stretch

/-- What a stretch stands for, if it stands for something. -/
def value? (environment : Environment) : Stretch → Option (List Char)
  | .literal text => some text
  | .reference name => (environment.get? (String.ofList name)).map String.toList
  | .unclosed _ => none

def standsFor (environment : Environment) (stretch : Stretch) : List Char :=
  (stretch.value? environment).getD []

/-- What is wrong with a stretch of a text. -/
inductive Faults (environment : Environment) (text : String) : Stretch → ReferenceFault → Prop where
  | unset {name : List Char} : environment.get? (String.ofList name) = none →
      Faults environment text (.reference name) (.unset (String.ofList name))
  | unclosed {rest : List Char} : Faults environment text (.unclosed rest) (.unclosed text)

variable {environment : Environment} {text : String} {stretch : Stretch}

/-- A stretch stands for something, or else there is something wrong with it. -/
theorem value?_eq_none_iff :
    stretch.value? environment = none ↔ ∃ fault, stretch.Faults environment text fault := by
  constructor
  · intro h
    cases stretch with
    | literal own =>
        cases h
    | reference name =>
        exact ⟨_, .unset (Option.map_eq_none_iff.1 h)⟩
    | unclosed rest =>
        exact ⟨_, .unclosed⟩
  · rintro ⟨fault, h⟩
    cases h with
    | unset hname =>
        exact Option.map_eq_none_iff.2 hname
    | unclosed =>
        rfl

end Stretch

namespace Environment

variable {environment : Environment} {text : String}

/-- The parts of a text, replaced by what they stand for. -/
def replaced (environment : Environment) (text : String) (parts : List Piece) :
    Except ReferenceFault (List Char) :=
  List.flatten <$> parts.mapM (environment.pieceText text)

theorem expand_eq : environment.expand text =
    String.ofList <$> environment.replaced text (pieces text.toList) := by
  unfold expand replaced
  cases (pieces text.toList).mapM (environment.pieceText text) <;> rfl

theorem replaced_append (front behind : List Piece) :
    environment.replaced text (front ++ behind) = do
      let first ← environment.replaced text front
      let second ← environment.replaced text behind
      return first ++ second := by
  unfold replaced
  rw [List.mapM_append]
  cases front.mapM (environment.pieceText text) with
  | error fault =>
      rfl
  | ok first =>
      cases behind.mapM (environment.pieceText text) with
      | error fault =>
          rfl
      | ok second =>
          show Except.ok (first ++ second).flatten = .ok (first.flatten ++ second.flatten)
          rw [List.flatten_append]

theorem replaced_literal (own : List Char) :
    environment.replaced text (own.map .literal) = .ok own := by
  induction own with
  | nil =>
      rfl
  | cons c own ih =>
      rw [List.map_cons, ← List.singleton_append, replaced_append, ih]
      rfl

theorem replaced_of_value {stretch : Stretch} {value : List Char}
    (h : stretch.value? environment = some value) :
    environment.replaced text stretch.pieces = .ok value := by
  cases stretch with
  | literal own =>
      cases h
      exact replaced_literal value
  | reference name =>
      obtain ⟨found, hfound, rfl⟩ := Option.map_eq_some_iff.1 h
      have hpiece : environment.pieceText text (.reference name) = .ok found.toList := by
        simp only [pieceText, hfound]
      simp only [replaced, Stretch.pieces, List.mapM_cons, List.mapM_nil, hpiece]
      exact congrArg Except.ok (List.append_nil found.toList)
  | unclosed rest =>
      cases h

theorem replaced_of_faults {stretch : Stretch} {fault : ReferenceFault}
    (h : stretch.Faults environment text fault) :
    environment.replaced text stretch.pieces = .error fault := by
  cases h with
  | @unset name hname =>
      have hpiece : environment.pieceText text (.reference name) =
          .error (.unset (String.ofList name)) := by
        simp only [pieceText, hname]
      simp only [replaced, Stretch.pieces, List.mapM_cons, hpiece]
      rfl
  | unclosed =>
      rfl

/-- Stretches that stand for something are replaced one after the other. -/
theorem replaced_of_values {stretches : List Stretch}
    (values : ∀ stretch ∈ stretches, stretch.value? environment ≠ none) :
    environment.replaced text (stretches.flatMap Stretch.pieces) =
      .ok (stretches.flatMap (Stretch.standsFor environment)) := by
  induction stretches with
  | nil =>
      rfl
  | cons first stretches ih =>
      obtain ⟨hfirst, hrest⟩ := List.forall_mem_cons.1 values
      obtain ⟨value, hvalue⟩ := Option.ne_none_iff_exists'.1 hfirst
      rw [List.flatMap_cons, List.flatMap_cons, replaced_append, replaced_of_value hvalue, ih hrest,
        Stretch.standsFor, hvalue]
      rfl

/-! ## Texts that can be expanded -/

theorem expand_of_splits {stretches : List Stretch} (h : Splits text.toList stretches)
    (values : ∀ stretch ∈ stretches, stretch.value? environment ≠ none) :
    environment.expand text =
      .ok (String.ofList (stretches.flatMap (Stretch.standsFor environment))) := by
  rw [expand_eq, pieces_of_splits h, replaced_of_values values]
  rfl

/-- The first stretch with which something is wrong decides. -/
theorem expand_of_faults {before after : List Stretch} {bad : Stretch} {fault : ReferenceFault}
    (h : Splits text.toList (before ++ bad :: after))
    (values : ∀ stretch ∈ before, stretch.value? environment ≠ none)
    (faults : bad.Faults environment text fault) : environment.expand text = .error fault := by
  rw [expand_eq, pieces_of_splits h, List.flatMap_append, List.flatMap_cons, replaced_append,
    replaced_of_values values, replaced_append, replaced_of_faults faults]
  rfl

/-- A text without references stands for itself in every environment. -/
theorem expand_eq_self {text : String} (h : ¬ opening <:+: text.toList)
    (environment : Environment) : environment.expand text = .ok text := by
  by_cases hempty : text.toList = []
  · rw [String.toList_eq_nil_iff.1 hempty]
    rfl
  · have splits := Splits.nil.cons (.literal text.toList) ⟨hempty, h⟩ (by simp)
    rw [List.append_nil] at splits
    rw [expand_of_splits splits (by simp [Stretch.value?])]
    simp [Stretch.standsFor, Stretch.value?]

end Environment

end EventRules
