import Mathlib.Data.List.Forall2
import EventRules.Proofs.Url.Segment

/-!
# Append — where further segments lead

A text that is put behind the path of a locator becomes one segment that stands for it, if the text
is plain.  One or two dots are left out, and so are tabs and line ends, which may leave one or two
dots behind.

* `Path.StandsFor` — a segment is the encoded form of a text and nothing else;
* `Path.leadsThrough_iff` — texts become one segment each exactly if all of them are plain;
* `Path.texts_eq_of_pathText_eq` — the text of such a path determines the texts.
-/

namespace EventRules
namespace Path

/-! ## Plain texts -/

/-- A text that is taken as it stands. -/
def IsPlain (text : String) : Prop :=
  text ≠ "." ∧ text ≠ ".." ∧ ∀ c ∈ text.toList, isRemoved c = false

instance (text : String) : Decidable (IsPlain text) :=
  decidable_of_iff (text ≠ "." ∧ text ≠ ".." ∧ text.toList.all (!isRemoved ·) = true)
    (by simp [IsPlain])

/-- A segment that is read as a text and cannot be taken for anything else. -/
structure StandsFor (segment text : String) : Prop where
  decodes : Percent.decode? segment.toList = some text.toList
  isInside : ∀ c ∈ segment.toList, c ∉ ['/', '\\', '?', '#']
  isNoDot : isOneDot segment = false
  isNoDots : isTwoDots segment = false

theorem StandsFor.text_eq {segment first second : String} (hfirst : StandsFor segment first)
    (hsecond : StandsFor segment second) : first = second :=
  String.toList_injective (Option.some.inj (hfirst.decodes.symm.trans hsecond.decodes))

/-- A text as a segment of a path. -/
def encoded (text : String) : String :=
  String.ofList (Percent.encode (Percent.inSegment true) (text.toList.filter (!isRemoved ·)))

theorem decode?_encoded (text : String) :
    Percent.decode? (encoded text).toList = some (text.toList.filter (!isRemoved ·)) := by
  rw [encoded, String.toList_ofList]
  exact Percent.decode?_encode (by decide) _

theorem filter_eq_iff (text : String) :
    text.toList.filter (!isRemoved ·) = text.toList ↔ ∀ c ∈ text.toList, isRemoved c = false := by
  simp only [List.filter_eq_self, Bool.not_eq_true']

theorem hexDigit_not_mem : ∀ n < 16, Percent.hexDigit n ∉ ['/', '\\', '?', '#'] := by
  decide

theorem standsFor_encoded {text : String} (plain : IsPlain text) :
    StandsFor (encoded text) text := by
  obtain ⟨noDot, noDots, kept⟩ := plain
  have decodes : Percent.decode? (encoded text).toList = some text.toList := by
    rw [decode?_encoded, (filter_eq_iff text).2 kept]
  refine ⟨decodes, ?inside, ?dot, ?dots⟩
  case inside =>
    intro c hc separates
    rw [encoded, String.toList_ofList] at hc
    -- a separator is not kept, and no part of an escape
    rcases Percent.mem_encode hc with free | rfl | ⟨n, bound, rfl⟩
    · simp only [List.mem_cons, List.not_mem_nil, or_false] at separates
      rcases separates with rfl | rfl | rfl | rfl <;> exact absurd free (by decide)
    · exact absurd separates (by decide)
    · exact hexDigit_not_mem n bound separates
  case dot =>
    -- what is taken for a dot is decoded to a dot, and the text is none
    refine Bool.eq_false_iff.2 fun dot => noDot (String.toList_injective ?_)
    exact Option.some.inj (decodes.symm.trans (decode?_of_isOneDot dot))
  case dots =>
    refine Bool.eq_false_iff.2 fun dots => noDots (String.toList_injective ?_)
    exact Option.some.inj (decodes.symm.trans (decode?_of_isTwoDots dots))

/-! ## One text -/

/-- The path that a segment is put behind: the root has no segment of its own. -/
def opened (path : List String) : List String := if path = [""] then [] else path

theorem opened_of_ne {path : List String} (h : path ≠ [""]) : opened path = path := if_neg h

theorem length_opened_le (path : List String) : (opened path).length ≤ path.length := by
  unfold opened
  split <;> simp

theorem push_eq (path : List String) (text : String) :
    push true false path text =
      if text = "." || text = ".." then path
      else if isTwoDots (encoded text) then back false (opened path) ++ [""]
      else if isOneDot (encoded text) then opened path ++ [""]
      else opened path ++ [encoded text] := by
  have same (before : List String) (other : String) : added false before other = other := by
    simp [added]
  unfold push
  split
  · rfl
  · simp only [settled, step, same, if_true, Bool.false_eq_true, if_false]
    rfl

theorem push_of_isPlain {text : String} (plain : IsPlain text) (path : List String) :
    push true false path text = opened path ++ [encoded text] := by
  have noDots : (text = "." || text = "..") = false := by simp [plain.1, plain.2.1]
  have stands := standsFor_encoded plain
  rw [push_eq, noDots, stands.isNoDot, stands.isNoDots]
  rfl

/-- What a text can do to a path. -/
theorem push_cases (path : List String) (text : String) :
    push true false path text = path ∨
      push true false path text = back false (opened path) ++ [""] ∨
      push true false path text = opened path ++ [""] ∧ isOneDot (encoded text) = true ∨
      push true false path text = opened path ++ [encoded text] ∧ text ≠ "." ∧ text ≠ ".." := by
  rw [push_eq]
  split
  · exact .inl rfl
  rename_i noDots
  split
  · exact .inr (.inl rfl)
  split
  · exact .inr (.inr (.inl ⟨rfl, by assumption⟩))
  · exact .inr (.inr (.inr ⟨rfl, by simpa using noDots⟩))

theorem length_back_le (path : List String) : (back false path).length ≤ path.length - 1 := by
  unfold back
  split <;> simp

/-- A text becomes at most one segment. -/
theorem length_push_le (path : List String) (text : String) :
    (push true false path text).length ≤ path.length + 1 := by
  have before := length_opened_le path
  have behind := length_back_le (opened path)
  rcases push_cases path text with same | back | ⟨dot, -⟩ | ⟨segment, -⟩
  · rw [same]
    omega
  · rw [back, List.length_append, List.length_singleton]
    omega
  · rwa [dot, List.length_append, List.length_singleton, Nat.add_le_add_iff_right]
  · rwa [segment, List.length_append, List.length_singleton, Nat.add_le_add_iff_right]

theorem opened_of_length_le {path : List String} (h : path.length ≤ (opened path).length) :
    opened path = path := by
  by_cases root : path = [""]
  · subst root
    exact absurd h (by decide)
  · exact opened_of_ne root

/-- A text that adds a segment to a path that has some: a dot, or a text that is taken up. -/
theorem push_of_length_eq {path : List String} {text : String} (some : path ≠ [])
    (grown : (push true false path text).length = path.length + 1) :
    push true false path text = path ++ [""] ∧ isOneDot (encoded text) = true ∨
      push true false path text = path ++ [encoded text] ∧ text ≠ "." ∧ text ≠ ".." := by
  have size := List.length_pos_of_ne_nil some
  have before := length_opened_le path
  have behind := length_back_le (opened path)
  -- a text without effect, or one that goes back, leaves the path too short
  rcases push_cases path text with same | back | ⟨dot, isDot⟩ | ⟨segment, noDots⟩
  · rw [same] at grown
    omega
  · rw [back, List.length_append, List.length_singleton] at grown
    omega
  · rw [dot, List.length_append, List.length_singleton] at grown
    rw [dot, opened_of_length_le (by omega)]
    exact .inl ⟨rfl, isDot⟩
  · rw [segment, List.length_append, List.length_singleton] at grown
    rw [segment, opened_of_length_le (by omega)]
    exact .inr ⟨rfl, noDots⟩

/-- A text that becomes the segment that stands for it is plain. -/
theorem isPlain_of_push {path : List String} {text segment : String} (some : path ≠ [])
    (h : push true false path text = path ++ [segment]) (stands : StandsFor segment text) :
    IsPlain text := by
  have grown : (push true false path text).length = path.length + 1 := by
    rw [h, List.length_append, List.length_singleton]
  rcases push_of_length_eq some grown with ⟨dot, isDot⟩ | ⟨taken, noDot, noDots⟩
  · -- an empty segment stands for the empty text, which is no dot
    obtain rfl : segment = "" := by simpa using h.symm.trans dot
    have empty : text.toList = [] := (Option.some.inj stands.decodes).symm
    have none : encoded text = "" := by
      rw [encoded, empty]
      rfl
    rw [none] at isDot
    exact absurd isDot (by decide +kernel)
  · obtain rfl : segment = encoded text := by simpa using h.symm.trans taken
    have kept := Option.some.inj ((decode?_encoded text).symm.trans stands.decodes)
    exact ⟨noDot, noDots, (filter_eq_iff text).1 kept⟩

/-! ## Several texts -/

theorem foldl_push_of_isPlain {texts : List String} (plain : ∀ text ∈ texts, IsPlain text)
    {path : List String} (named : ∃ segment ∈ path, segment ≠ "") :
    texts.foldl (push true false) path = path ++ texts.map encoded := by
  induction texts generalizing path with
  | nil =>
      exact (List.append_nil path).symm
  | cons text texts ih =>
      -- the segment with a name stays, so no path on the way is the root
      obtain ⟨segment, hmem, hne⟩ := named
      have notRoot : path ≠ [""] := by
        rintro rfl
        exact hne (List.mem_singleton.1 hmem)
      have first := push_of_isPlain (plain text List.mem_cons_self) path
      rw [opened_of_ne notRoot] at first
      rw [List.foldl_cons, first, ih (fun other h => plain other (List.mem_cons_of_mem _ h))
        ⟨segment, List.mem_append_left _ hmem, hne⟩, List.append_assoc, List.map_cons,
        List.singleton_append]

theorem length_foldl_push_le (texts path : List String) :
    (texts.foldl (push true false) path).length ≤ path.length + texts.length := by
  induction texts generalizing path with
  | nil =>
      simp
  | cons text texts ih =>
      have one := length_push_le path text
      have rest := ih (push true false path text)
      simp only [List.foldl_cons, List.length_cons]
      omega

/-- Where each text becomes one more segment, the path before them stays. -/
theorem isPrefix_foldl_push {texts path : List String} (some : path ≠ [])
    (grown : (texts.foldl (push true false) path).length = path.length + texts.length) :
    path <+: texts.foldl (push true false) path := by
  induction texts generalizing path with
  | nil =>
      exact List.prefix_rfl
  | cons text texts ih =>
      have one := length_push_le path text
      have rest := length_foldl_push_le texts (push true false path text)
      simp only [List.foldl_cons, List.length_cons] at grown ⊢
      -- no text adds more than one segment, so each of them adds just one
      have single : (push true false path text).length = path.length + 1 := by omega
      have behind : path <+: push true false path text := by
        rcases push_of_length_eq some single with ⟨h, -⟩ | ⟨h, -⟩ <;>
          exact h ▸ List.prefix_append path _
      have other : push true false path text ≠ [] := by
        intro none
        rw [none] at single
        simp at single
      exact behind.trans (ih other (by omega))

/-- A segment that is followed by one segment for each text is the one before the texts. -/
theorem eq_of_foldl_push {texts path segments : List String} {before segment : String}
    (h : texts.foldl (push true false) (path ++ [before]) = path ++ segment :: segments)
    (same : segments.length = texts.length) : before = segment := by
  have grown : (texts.foldl (push true false) (path ++ [before])).length =
      (path ++ [before]).length + texts.length := by
    rw [h]
    simp only [List.length_append, List.length_cons, List.length_nil, same]
    omega
  have stays := isPrefix_foldl_push (by simp) grown
  rw [h] at stays
  exact (List.cons_prefix_cons.1 ((List.prefix_append_right_inj path).1 stays)).1

theorem isPlain_of_foldl_push {texts path segments : List String} (some : path ≠ [])
    (h : texts.foldl (push true false) path = path ++ segments)
    (stand : List.Forall₂ StandsFor segments texts) : ∀ text ∈ texts, IsPlain text := by
  induction stand generalizing path with
  | nil =>
      simp
  | @cons segment text segments texts first rest ih =>
      have size := congrArg List.length h
      have one := length_push_le path text
      have more := length_foldl_push_le texts (push true false path text)
      have same := rest.length_eq
      simp only [List.foldl_cons, List.length_append, List.length_cons] at size
      have single : (push true false path text).length = path.length + 1 := by omega
      -- the first text adds one segment, which the others leave as it is
      obtain ⟨added, grown⟩ : ∃ added, push true false path text = path ++ [added] := by
        rcases push_of_length_eq some single with ⟨h, -⟩ | ⟨h, -⟩ <;> exact ⟨_, h⟩
      rw [List.foldl_cons, grown] at h
      obtain rfl : added = segment := eq_of_foldl_push h same
      have here := isPlain_of_push some grown first
      have behind := ih (by simp) (h.trans (List.append_cons path added segments))
      exact List.forall_mem_cons.2 ⟨here, behind⟩

/-! ## A path with further segments -/

/-- A path without an empty segment at its end. -/
def stem (path : List String) : List String :=
  if path.getLast? = some "" then path.dropLast else path

/-- The only path that loses both of its empty segments has nothing else. -/
theorem opened_trimmed {path : List String} (h : path ≠ ["", ""]) :
    opened (trimmed path) = stem path := by
  by_cases root : path = [""]
  · subst root
    decide
  by_cases slash : path.getLast? = some ""
  · have short : path.dropLast ≠ [""] := by
      intro same
      exact h (by rw [← List.dropLast_append_getLast? "" slash, same, List.singleton_append])
    have cut : trimmed path = path.dropLast := by simp [trimmed, slash, root]
    rw [cut, opened_of_ne short, stem, if_pos slash]
  · have whole : trimmed path = path := by simp [trimmed, slash]
    rw [whole, opened_of_ne root, stem, if_neg slash]

/-- The first text has a name, so what follows is put behind a path that has one. -/
theorem foldl_push_trimmed {path : List String} {first : String} (plain : IsPlain first)
    (texts : List String) :
    (first :: texts).foldl (push true false) (trimmed path) =
      texts.foldl (push true false) (opened (trimmed path) ++ [encoded first]) := by
  rw [List.foldl_cons, push_of_isPlain plain]

theorem encoded_ne_empty {text : String} (plain : IsPlain text) (named : text ≠ "") :
    encoded text ≠ "" := by
  intro empty
  have decodes := (standsFor_encoded plain).decodes
  rw [empty] at decodes
  exact named (String.toList_injective (Option.some.inj decodes).symm)

theorem foldl_push_eq_encoded {first : String} {texts : List String} (path : List String)
    (plain : ∀ text ∈ first :: texts, IsPlain text) (named : first ≠ "") :
    (first :: texts).foldl (push true false) (trimmed path) =
      opened (trimmed path) ++ (first :: texts).map encoded := by
  obtain ⟨start, rest⟩ := List.forall_mem_cons.1 plain
  have name : ∃ segment ∈ opened (trimmed path) ++ [encoded first], segment ≠ "" :=
    ⟨encoded first, by simp, encoded_ne_empty start named⟩
  rw [foldl_push_trimmed start, foldl_push_of_isPlain rest name, List.append_assoc,
    List.singleton_append, List.map_cons]

theorem forall₂_encoded {texts : List String} (plain : ∀ text ∈ texts, IsPlain text) :
    List.Forall₂ StandsFor (texts.map encoded) texts :=
  List.forall₂_map_left_iff.2
    (List.forall₂_same.2 fun text h => standsFor_encoded (plain text h))

/-- Behind a path, texts lead through one segment each exactly if all of them are plain. -/
theorem leadsThrough_iff {path : List String} {first : String} {texts : List String}
    (plain : IsPlain first) (named : first ≠ "") :
    (∃ segments, (first :: texts).foldl (push true false) (trimmed path) = stem path ++ segments ∧
        List.Forall₂ StandsFor segments (first :: texts)) ↔
      path ≠ ["", ""] ∧ ∀ text ∈ first :: texts, IsPlain text := by
  constructor
  · rintro ⟨segments, result, stand⟩
    rw [foldl_push_trimmed plain] at result
    have size := congrArg List.length result
    have atMost := length_foldl_push_le texts (opened (trimmed path) ++ [encoded first])
    have same := stand.length_eq
    simp only [List.length_append, List.length_cons, List.length_nil] at size atMost same
    -- of two empty segments both are lost, and the texts cannot make up for the second
    have notTwo : path ≠ ["", ""] := by
      rintro rfl
      have none : (opened (trimmed ["", ""])).length = 0 := by decide
      have one : (stem ["", ""]).length = 1 := by decide
      omega
    refine ⟨notTwo, ?_⟩
    rw [opened_trimmed notTwo] at result
    cases stand with
    | @cons segment _ segments _ _ rest =>
        obtain rfl : encoded first = segment := eq_of_foldl_push result rest.length_eq
        have behind := isPlain_of_foldl_push (by simp)
          (result.trans (List.append_cons (stem path) (encoded first) segments)) rest
        exact List.forall_mem_cons.2 ⟨plain, behind⟩
  · rintro ⟨notTwo, others⟩
    refine ⟨(first :: texts).map encoded, ?_, forall₂_encoded others⟩
    rw [← opened_trimmed notTwo, foldl_push_eq_encoded path others named]

/-! ## The text of a path -/

theorem toList_pathText_cons (segment : String) (segments : List String) :
    (Url.pathText (segment :: segments)).toList =
      '/' :: (segment.toList ++ (Url.pathText segments).toList) := by
  rw [Url.pathText, List.map_cons, String.join_cons, String.toList_append, String.toList_append]
  rfl

theorem pathText_append (front behind : List String) :
    Url.pathText (front ++ behind) = Url.pathText front ++ Url.pathText behind := by
  rw [Url.pathText, List.map_append, String.join_append]
  rfl

/-- A segment is no longer than the path that it is in. -/
theorem size_le_pathText {segment : String} {segments : List String} (h : segment ∈ segments) :
    segment.utf8ByteSize ≤ (Url.pathText segments).utf8ByteSize := by
  obtain ⟨front, behind, rfl⟩ := List.append_of_mem h
  have split : Url.pathText (segment :: behind) = "/" ++ segment ++ Url.pathText behind := by
    rw [Url.pathText, List.map_cons, String.join_cons]
    rfl
  rw [pathText_append, split]
  simp only [String.utf8ByteSize_append]
  omega

/-- A path is no longer than the locator that it is in. -/
theorem size_pathText_le (url : Url) :
    (Url.pathText url.segments).utf8ByteSize ≤ url.text.utf8ByteSize := by
  unfold Url.text
  simp only [String.utf8ByteSize_append]
  omega

theorem pathText_cons_ne (segment : String) (segments : List String) :
    Url.pathText (segment :: segments) ≠ Url.pathText [] := by
  intro h
  have texts := congrArg String.toList h
  rw [toList_pathText_cons] at texts
  exact absurd texts (List.cons_ne_nil _ _)

/-- A segment ends where the next slash stands. -/
theorem takeWhile_pathText {segment : String} (inside : '/' ∉ segment.toList) (rest : List String) :
    (segment.toList ++ (Url.pathText rest).toList).takeWhile (· ≠ '/') = segment.toList := by
  have behind : (Url.pathText rest).toList.takeWhile (· ≠ '/') = [] := by
    cases rest with
    | nil =>
        rfl
    | cons next rest =>
        rw [toList_pathText_cons, List.takeWhile_cons_of_neg (by simp)]
  have own : ∀ c ∈ segment.toList, decide (c ≠ '/') = true := by
    intro c hc
    exact decide_eq_true fun same => inside (same ▸ hc)
  rw [List.takeWhile_append_of_pos own, behind, List.append_nil]

/-- The text of a path determines its segments if they have no slashes. -/
theorem pathText_inj {first second : List String}
    (hfirst : ∀ segment ∈ first, '/' ∉ segment.toList)
    (hsecond : ∀ segment ∈ second, '/' ∉ segment.toList)
    (h : Url.pathText first = Url.pathText second) : first = second := by
  induction first generalizing second with
  | nil =>
      cases second with
      | nil =>
          rfl
      | cons other second =>
          exact absurd h.symm (pathText_cons_ne other second)
  | cons segment first ih =>
      cases second with
      | nil =>
          exact absurd h (pathText_cons_ne segment first)
      | cons other second =>
          obtain ⟨own, firsts⟩ := List.forall_mem_cons.1 hfirst
          obtain ⟨others, seconds⟩ := List.forall_mem_cons.1 hsecond
          have texts := congrArg String.toList h
          rw [toList_pathText_cons, toList_pathText_cons, List.cons_inj_right] at texts
          -- both first segments end with the next slash
          have same : segment.toList = other.toList := by
            rw [← takeWhile_pathText own first, texts, takeWhile_pathText others second]
          rw [same, List.append_cancel_left_eq] at texts
          rw [String.toList_injective same, ih firsts seconds (String.toList_injective texts)]

theorem noSlash_of_standFor {segments texts : List String}
    (stand : List.Forall₂ StandsFor segments texts) :
    ∀ segment ∈ segments, '/' ∉ segment.toList := by
  induction stand with
  | nil =>
      simp
  | cons first rest ih =>
      exact List.forall_mem_cons.2 ⟨fun slash => first.isInside '/' slash (by simp), ih⟩

/-- Segments that stand for texts determine the texts, and so does the text of their path. -/
theorem texts_eq_of_pathText_eq {stem first second : List String} {texts others : List String}
    (hfirst : List.Forall₂ StandsFor first texts) (hsecond : List.Forall₂ StandsFor second others)
    (h : Url.pathText (stem ++ first) = Url.pathText (stem ++ second)) : texts = others := by
  have unique : Relator.RightUnique StandsFor := fun _ _ _ => StandsFor.text_eq
  have texts := congrArg String.toList h
  rw [pathText_append, pathText_append, String.toList_append, String.toList_append,
    List.append_cancel_left_eq] at texts
  obtain rfl := pathText_inj (noSlash_of_standFor hfirst) (noSlash_of_standFor hsecond)
    (String.toList_injective texts)
  exact List.right_unique_forall₂' unique hfirst hsecond

end Path
end EventRules
