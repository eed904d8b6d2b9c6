import EventRules.Proofs.Template.Shape

/-!
# Mirror — what rendering keeps of a template

The value of a template looks like the template.  Lists keep their length and objects their names,
apart from the entries whose text is a single expression without a value.  Only texts with marks are
replaced, and one that is no single expression is replaced by a text.

* `OutputTemplate.IsExpression`, `OutputTemplate.isUndefined` — single expressions, and those without a
  value;
* `OutputTemplate.Mirrors` — how a value looks like its template;
* `OutputTemplate.mirrors_of_renderTree` — that what has been rendered does;
* `OutputTemplate.Mirrors.unique` — that no other value does.
-/

namespace EventRules
namespace OutputTemplate

open Json (Step)
open Template

variable {context : Value} {s source : String} {data : Option Json}

/-! ## Single texts -/

/-- A text that is a single expression, apart from blanks. -/
def IsExpression (part : Json) : Prop :=
  ∃ s source, part = .string s ∧ Leaf.ofText s = .expression source

/-- The answer of an expression, undefined or not. -/
def answerOf (context : Value) (source : String) : Except Fault Value := do
  (← Grammar.expression source).eval (levelsFor source) context

/-- Whether a part is a single expression whose answer is undefined. -/
def isUndefined (context : Value) : Json → Bool
  | .string s =>
      match Leaf.ofText s with
      | .expression source =>
          match answerOf context source with
          | .ok answer => answer.isUndefined
          | .error _ => false
      | _ => false
  | _ => false

theorem ofText_of_unmarked (h : Leaf.hasMarks s = false) : Leaf.ofText s = .plain s := by
  rw [Leaf.ofText, h]
  rfl

theorem ofText_of_marked (hmarks : Leaf.hasMarks s = true) (hnot : ¬ IsExpression (.string s)) :
    Leaf.ofText s = .template s := by
  have hleaf : ∀ source, Leaf.ofText s ≠ .expression source :=
    fun source hleaf => hnot ⟨s, source, rfl, hleaf⟩
  rw [Leaf.ofText, if_pos hmarks] at hleaf ⊢
  cases hwhole : Leaf.wholeExpression? s with
  | none =>
      rfl
  | some source =>
      rw [hwhole] at hleaf
      exact absurd rfl (hleaf source)

theorem renderText_eq_ok_iff :
    renderText context s = .ok data ↔
      ∃ compiled, (Leaf.ofText s).compile = .ok compiled ∧ compiled.eval context = .ok data := by
  rw [renderText]
  cases (Leaf.ofText s).compile with
  | error cause =>
      simp [bind, Except.bind]
  | ok compiled =>
      cases h : compiled.eval context <;> simp [bind, Except.bind, h]

theorem renderText_of_unmarked (h : Leaf.hasMarks s = false) :
    renderText context s = .ok (some (.string s)) := by
  rw [renderText_eq_ok_iff, ofText_of_unmarked h]
  exact ⟨_, rfl, rfl⟩

theorem renderText_template_iff (hleaf : Leaf.ofText s = .template source) :
    renderText context s = .ok data ↔
      ∃ document text, Grammar.template source = .ok document ∧
        document.eval (levelsFor source) context = .ok text ∧ data = some (.string text) := by
  rw [renderText_eq_ok_iff, hleaf]
  constructor
  · rintro ⟨compiled, hcompile, heval⟩
    obtain ⟨document, hdocument, rfl⟩ := ok_of_map hcompile
    obtain ⟨text, htext, hdata⟩ := ok_of_bind heval
    cases hdata
    exact ⟨document, text, hdocument, htext, rfl⟩
  · rintro ⟨document, text, hdocument, htext, rfl⟩
    refine ⟨.template document (levelsFor source), by rw [Leaf.compile, hdocument]; rfl, ?_⟩
    rw [Leaf.Compiled.eval, htext]
    rfl

theorem renderText_expression_iff (hleaf : Leaf.ofText s = .expression source) :
    renderText context s = .ok data ↔
      ∃ answer, answerOf context source = .ok answer ∧
        ((answer.isUndefined = true ∧ data = none) ∨
          answer.isUndefined = false ∧
            ∃ found, answer.toJson = .ok found ∧ data = some found) := by
  rw [renderText_eq_ok_iff, hleaf]
  constructor
  · rintro ⟨compiled, hcompile, heval⟩
    obtain ⟨e, hexpr, rfl⟩ := ok_of_map hcompile
    obtain ⟨answer, hanswer, hdata⟩ := ok_of_bind heval
    refine ⟨answer, by rw [answerOf, hexpr]; exact hanswer, ?_⟩
    cases hundefined : answer.isUndefined with
    | true =>
        rw [hundefined] at hdata
        cases hdata
        exact .inl ⟨rfl, rfl⟩
    | false =>
        rw [hundefined] at hdata
        obtain ⟨found, hfound, hdone⟩ := ok_of_bind hdata
        cases hdone
        exact .inr ⟨rfl, found, hfound, rfl⟩
  · rintro ⟨answer, hanswer, hdata⟩
    obtain ⟨e, hexpr, heval⟩ := ok_of_bind hanswer
    refine ⟨.expression e (levelsFor source), by rw [Leaf.compile, hexpr]; rfl, ?_⟩
    rw [Leaf.Compiled.eval, heval]
    rcases hdata with ⟨hundefined, rfl⟩ | ⟨hdefined, found, hfound, rfl⟩
    · simp only [bind, Except.bind, hundefined, if_true]
      rfl
    · simp only [bind, Except.bind, hdefined, hfound, Bool.false_eq_true, if_false]
      rfl

/-! ## Parts without a value -/

theorem renderText_isNone (h : renderText context s = .ok data) :
    data.isNone = isUndefined context (.string s) := by
  rw [isUndefined]
  cases hleaf : Leaf.ofText s with
  | plain t =>
      rw [renderText_eq_ok_iff, hleaf] at h
      obtain ⟨compiled, hcompile, heval⟩ := h
      cases hcompile
      cases heval
      rfl
  | template source =>
      obtain ⟨document, text, -, -, rfl⟩ := (renderText_template_iff hleaf).1 h
      rfl
  | expression source =>
      obtain ⟨answer, hanswer, ⟨hundefined, rfl⟩ | ⟨hdefined, found, -, rfl⟩⟩ :=
        (renderText_expression_iff hleaf).1 h
      · simp [hanswer, hundefined]
      · simp [hanswer, hdefined]

/-- Only a single expression can be without a value. -/
theorem renderValue_isNone {part : Json} (h : renderValue context part = .ok data) :
    data.isNone = isUndefined context part := by
  cases part with
  | string s =>
      exact renderText_isNone h
  | array items =>
      obtain ⟨values, -, hdone⟩ := ok_of_bind h
      cases hdone
      rfl
  | object entries =>
      obtain ⟨fields, -, hdone⟩ := ok_of_bind h
      cases hdone
      rfl
  | _ =>
      cases h
      rfl

theorem length_renderItems {items values : List Json} (h : renderItems context items = .ok values) :
    values.length = items.length := by
  induction items generalizing values with
  | nil =>
      cases h
      rfl
  | cons first rest ih =>
      obtain ⟨data, -, hothers⟩ := ok_of_bind h
      obtain ⟨others, hrest, hvalues⟩ := ok_of_bind hothers
      cases hvalues
      exact congrArg Nat.succ (ih hrest)

/-- The names of the entries that have a value, in their order. -/
theorem names_renderEntries {entries fields : List (String × Json)}
    (h : renderEntries context entries = .ok fields) :
    fields.map Prod.fst =
      (entries.filter fun entry => !isUndefined context entry.2).map Prod.fst := by
  induction entries generalizing fields with
  | nil =>
      cases h
      rfl
  | cons first rest ih =>
      rcases first with ⟨name, value⟩
      obtain ⟨data, others, hvalue, hrest, rfl⟩ := renderEntries_cons h
      -- an entry is left out on both sides or on neither
      have hnone := renderValue_isNone hvalue
      rw [List.map_append, ih hrest, List.filter_cons, ← hnone]
      cases data <;> rfl

/-- Entries under some of the names of an object in order are in order. -/
theorem sorted_of_names {entries fields : List (String × Json)} {keep : String × Json → Bool}
    (sorted : Fields.Sorted entries)
    (h : fields.map Prod.fst = (entries.filter keep).map Prod.fst) : Fields.Sorted fields := by
  have hnames := List.pairwise_map.2 (sorted.filter keep)
  rw [← h] at hnames
  exact List.pairwise_map.1 hnames

/-! ## The whole value -/

/-- A value that looks like a template, part by part. -/
structure Mirrors (context : Value) (tree value : Json) : Prop where
  /-- A template without a value is null. -/
  whole : isUndefined context tree = true → value = .null
  /-- An item without a value is null. -/
  lists : ∀ place items, tree.at? place = some (.array items) →
    ∃ values, value.at? place = some (.array values) ∧ values.length = items.length ∧
      ∀ (index : Nat) (item : Json), items[index]? = some item → isUndefined context item = true →
        values[index]? = some .null
  /-- An entry without a value is left out. -/
  objects : ∀ place entries, tree.at? place = some (.object entries) →
    ∃ fields, value.at? place = some (.object fields) ∧
      fields.map Prod.fst =
        (entries.filter fun entry => !isUndefined context entry.2).map Prod.fst
  expressions : ∀ place s source, tree.at? place = some (.string s) →
    Leaf.ofText s = .expression source → ∃ answer, answerOf context source = .ok answer ∧
      (answer.isUndefined = false →
        ∃ found, answer.toJson = .ok found ∧ value.at? place = some found)
  /-- Any other text with marks is a template, whose result is a text. -/
  texts : ∀ place s, tree.at? place = some (.string s) → Leaf.hasMarks s = true →
    ¬ IsExpression (.string s) → ∃ document text, Grammar.template s = .ok document ∧
      document.eval (levelsFor s) context = .ok text ∧ value.at? place = some (.string text)
  unmarked : ∀ place s, tree.at? place = some (.string s) → Leaf.hasMarks s = false →
    value.at? place = some (.string s)
  scalars : ∀ place part, tree.at? place = some part →
    part = .null ∨ (∃ b, part = .bool b) ∨ (∃ n, part = .number n) → value.at? place = some part

/-- What a part is rendered to is found at its place. -/
theorem at?_of_renderTree {template : OutputTemplate} {input value : Json}
    (h : template.renderTree input = .ok value) {place : List Step} {part : Json}
    (hpart : template.tree.value.at? place = some part) :
    ∃ data, renderValue (.ofJson input) part = .ok data ∧
      ∀ found, data = some found → value.at? place = some found := by
  obtain ⟨whole, hwhole, hvalue⟩ := ok_of_bind h
  cases hvalue
  obtain ⟨data, hdata, hat⟩ := renderValue_at hwhole hpart
  refine ⟨data, hdata, fun found hfound => ?_⟩
  obtain ⟨rendered, rfl, hplace⟩ := hat found hfound
  exact hplace

/-- What has been rendered looks like the template. -/
theorem mirrors_of_renderTree {template : OutputTemplate} {input value : Json}
    (h : template.renderTree input = .ok value) :
    Mirrors (.ofJson input) template.tree.value value where
  whole := by
    intro hundefined
    obtain ⟨data, hdata, hvalue⟩ := ok_of_bind h
    rw [← renderValue_isNone hdata, Option.isNone_iff_eq_none] at hundefined
    cases hundefined
    cases hvalue
    rfl
  lists := by
    intro place items hpart
    obtain ⟨data, hdata, hat⟩ := at?_of_renderTree h hpart
    obtain ⟨values, hvalues, hdone⟩ := ok_of_bind hdata
    cases hdone
    refine ⟨values, hat _ rfl, length_renderItems hvalues, fun index item hitem hundefined => ?_⟩
    -- an item keeps its place even if nothing is left of it but null
    obtain ⟨own, hown, hget⟩ := renderItems_get hvalues hitem
    rw [← renderValue_isNone hown, Option.isNone_iff_eq_none] at hundefined
    rw [hget, hundefined]
    rfl
  objects := by
    intro place entries hpart
    obtain ⟨data, hdata, hat⟩ := at?_of_renderTree h hpart
    obtain ⟨fields, hfields, hdone⟩ := ok_of_bind hdata
    cases hdone
    exact ⟨fields, hat _ rfl, names_renderEntries hfields⟩
  expressions := by
    intro place s source hpart hleaf
    obtain ⟨data, hdata, hat⟩ := at?_of_renderTree h hpart
    obtain ⟨answer, hanswer, hcases⟩ := (renderText_expression_iff hleaf).1 hdata
    refine ⟨answer, hanswer, fun hdefined => ?_⟩
    rcases hcases with ⟨hundefined, -⟩ | ⟨-, found, hfound, hshown⟩
    · rw [hdefined] at hundefined
      cases hundefined
    · exact ⟨found, hfound, hat found hshown⟩
  texts := by
    intro place s hpart hmarks hnot
    obtain ⟨data, hdata, hat⟩ := at?_of_renderTree h hpart
    obtain ⟨document, text, hdocument, htext, hshown⟩ :=
      (renderText_template_iff (ofText_of_marked hmarks hnot)).1 hdata
    exact ⟨document, text, hdocument, htext, hat _ hshown⟩
  unmarked := by
    intro place s hpart hmarks
    obtain ⟨data, hdata, hat⟩ := at?_of_renderTree h hpart
    rw [renderValue, renderText_of_unmarked hmarks] at hdata
    cases hdata
    exact hat _ rfl
  scalars := by
    intro place part hpart hscalar
    obtain ⟨data, hdata, hat⟩ := at?_of_renderTree h hpart
    rcases hscalar with rfl | ⟨b, rfl⟩ | ⟨n, rfl⟩ <;>
      cases hdata <;> exact hat _ rfl

namespace Mirrors

variable {tree value : Json}

/-- A text that is no single expression gives a text. -/
theorem exists_text (mirrors : Mirrors context tree value) {place : List Step}
    (hpart : tree.at? place = some (.string s)) (hnot : ¬ IsExpression (.string s)) :
    ∃ text, value.at? place = some (.string text) := by
  cases hmarks : Leaf.hasMarks s with
  | true =>
      obtain ⟨document, text, -, -, hshown⟩ := mirrors.texts place s hpart hmarks hnot
      exact ⟨text, hshown⟩
  | false =>
      exact ⟨s, mirrors.unmarked place s hpart hmarks⟩

/-- A part that is no single expression has a value. -/
theorem exists_part (mirrors : Mirrors context tree value) {place : List Step} {part : Json}
    (hpart : tree.at? place = some part) (hnot : ¬ IsExpression part) :
    ∃ found, value.at? place = some found := by
  cases part with
  | string s =>
      obtain ⟨text, hshown⟩ := mirrors.exists_text hpart hnot
      exact ⟨.string text, hshown⟩
  | array items =>
      obtain ⟨values, hshown, -⟩ := mirrors.lists place items hpart
      exact ⟨.array values, hshown⟩
  | object entries =>
      obtain ⟨fields, hshown, -⟩ := mirrors.objects place entries hpart
      exact ⟨.object fields, hshown⟩
  | null =>
      exact ⟨.null, mirrors.scalars place .null hpart (.inl rfl)⟩
  | bool b =>
      exact ⟨.bool b, mirrors.scalars place (.bool b) hpart (.inr (.inl ⟨b, rfl⟩))⟩
  | number n =>
      exact ⟨.number n, mirrors.scalars place (.number n) hpart (.inr (.inr ⟨n, rfl⟩))⟩

/-- Rendering makes up no names. -/
theorem get?_eq_none (mirrors : Mirrors context tree value) {entries : List (String × Json)}
    (hobject : tree = .object entries) {name : String} (h : tree.get? name = none) :
    value.get? name = none := by
  subst hobject
  obtain ⟨fields, hfields, hnames⟩ := mirrors.objects [] entries rfl
  cases hfields
  have habsent : name ∉ entries.map Prod.fst := lookup_eq_none_iff_not_mem.1 h
  refine lookup_eq_none_iff_not_mem.2 fun hmem => habsent ?_
  rw [hnames] at hmem
  exact (List.filter_sublist.map Prod.fst).subset hmem

end Mirrors

/-! ## One value only -/

namespace Mirrors

variable {tree value other : Json}

/-- Only a template whose texts can all be rendered has a value that looks like it. -/
theorem renders (mirrors : Mirrors context tree value) {place : List Step}
    (hpart : tree.at? place = some (.string s)) : ∃ data, renderText context s = .ok data := by
  cases hmarks : Leaf.hasMarks s with
  | false =>
      exact ⟨_, renderText_of_unmarked hmarks⟩
  | true =>
      by_cases hexpression : IsExpression (.string s)
      · obtain ⟨own, source, hown, hleaf⟩ := hexpression
        cases hown
        obtain ⟨answer, hanswer, hfound⟩ := mirrors.expressions place s source hpart hleaf
        refine (exists_congr fun data => renderText_expression_iff hleaf).2 ?_
        cases hundefined : answer.isUndefined with
        | true =>
            exact ⟨none, answer, hanswer, .inl ⟨hundefined, rfl⟩⟩
        | false =>
            obtain ⟨found, hjson, -⟩ := hfound hundefined
            exact ⟨some found, answer, hanswer, .inr ⟨hundefined, found, hjson, rfl⟩⟩
      · obtain ⟨document, text, hdocument, htext, -⟩ := mirrors.texts place s hpart hmarks hexpression
        have hleaf := ofText_of_marked hmarks hexpression
        exact ⟨_, (renderText_template_iff hleaf).2 ⟨document, text, hdocument, htext, rfl⟩⟩

/-- A part of the value looks like the part of the template at the same step. -/
theorem part (mirrors : Mirrors context tree value) (step : Step) {part found : Json}
    (hpart : Json.part? step tree = some part) (hfound : Json.part? step value = some found)
    (hnull : isUndefined context part = true → found = .null) : Mirrors context part found := by
  have htree : ∀ place, part.at? place = tree.at? (step :: place) := by
    intro place
    rw [Json.at?, hpart, Option.bind_some]
  have hvalue : ∀ place, found.at? place = value.at? (step :: place) := by
    intro place
    rw [Json.at?, hfound, Option.bind_some]
  constructor
  case whole => exact hnull
  all_goals
    intro place
    rw [htree, hvalue]
  case lists => exact mirrors.lists _
  case objects => exact mirrors.objects _
  case expressions => exact mirrors.expressions _
  case texts => exact mirrors.texts _
  case unmarked => exact mirrors.unmarked _
  case scalars => exact fun part => mirrors.scalars _ part

/-- The answers of a text are the same, and so is what they leave behind. -/
theorem unique_text (mirrors : Mirrors context (.string s) value)
    (others : Mirrors context (.string s) other) : value = other := by
  cases hmarks : Leaf.hasMarks s with
  | false =>
      have hvalue := mirrors.unmarked [] s rfl hmarks
      exact Option.some.inj (hvalue.trans (others.unmarked [] s rfl hmarks).symm)
  | true =>
      by_cases hexpression : IsExpression (.string s)
      · obtain ⟨own, source, hown, hleaf⟩ := hexpression
        cases hown
        obtain ⟨answer, hanswer, hfound⟩ := mirrors.expressions [] s source rfl hleaf
        obtain ⟨same, hsame, hfound'⟩ := others.expressions [] s source rfl hleaf
        cases hanswer.symm.trans hsame
        cases hundefined : answer.isUndefined with
        | true =>
            have hnone : isUndefined context (.string s) = true := by
              simp only [isUndefined, hleaf, hanswer, hundefined]
            rw [mirrors.whole hnone, others.whole hnone]
        | false =>
            obtain ⟨found, hjson, hvalue⟩ := hfound hundefined
            obtain ⟨found', hjson', hother⟩ := hfound' hundefined
            cases hjson.symm.trans hjson'
            exact Option.some.inj (hvalue.trans hother.symm)
      · obtain ⟨document, text, hdocument, htext, hvalue⟩ := mirrors.texts [] s rfl hmarks hexpression
        obtain ⟨document', text', hdocument', htext', hother⟩ :=
          others.texts [] s rfl hmarks hexpression
        cases hdocument.symm.trans hdocument'
        cases htext.symm.trans htext'
        exact Option.some.inj (hvalue.trans hother.symm)

theorem unique_scalar (mirrors : Mirrors context tree value)
    (others : Mirrors context tree other)
    (h : tree = .null ∨ (∃ b, tree = .bool b) ∨ (∃ n, tree = .number n)) : value = other :=
  Option.some.inj ((mirrors.scalars [] tree rfl h).trans (others.scalars [] tree rfl h).symm)

/-- Lists that look like a list agree if they agree on what any of its items can be. -/
theorem unique_array {items : List Json} (mirrors : Mirrors context (.array items) value)
    (others : Mirrors context (.array items) other)
    (same : ∀ item ∈ items, ∀ {found found' : Json}, Mirrors context item found →
      Mirrors context item found' → found = found') : value = other := by
  obtain ⟨values, hvalue, hlength, hnull⟩ := mirrors.lists [] items rfl
  obtain ⟨values', hother, hlength', hnull'⟩ := others.lists [] items rfl
  cases hvalue
  cases hother
  refine congrArg Json.array (List.ext_getElem (hlength.trans hlength'.symm) ?_)
  intro index hless hless'
  have hitem : items[index]? = some items[index] := List.getElem?_eq_getElem (hlength ▸ hless)
  have hfound : values[index]? = some values[index] := List.getElem?_eq_getElem hless
  have hfound' : values'[index]? = some values'[index] := List.getElem?_eq_getElem hless'
  refine same items[index] (List.getElem_mem _) (mirrors.part (.index index) hitem hfound ?_)
    (others.part (.index index) hitem hfound' ?_)
  · intro hundefined
    exact Option.some.inj (hfound.symm.trans (hnull index _ hitem hundefined))
  · intro hundefined
    exact Option.some.inj (hfound'.symm.trans (hnull' index _ hitem hundefined))

/-- Objects that look like an object agree if they agree on what any of its entries can be. -/
theorem unique_object {entries : List (String × Json)} (sorted : Fields.Sorted entries)
    (mirrors : Mirrors context (.object entries) value)
    (others : Mirrors context (.object entries) other)
    (same : ∀ entry ∈ entries, ∀ {found found' : Json}, Mirrors context entry.2 found →
      Mirrors context entry.2 found' → found = found') : value = other := by
  obtain ⟨fields, hvalue, hnames⟩ := mirrors.objects [] entries rfl
  obtain ⟨fields', hother, hnames'⟩ := others.objects [] entries rfl
  cases hvalue
  cases hother
  refine congrArg Json.object
    (Fields.eq_of_lookup_eq (sorted_of_names sorted hnames) (sorted_of_names sorted hnames') ?_)
  intro name
  by_cases hname : name ∈ fields.map Prod.fst
  · -- both have the entry, so its part of the template has a value
    obtain ⟨⟨own, part⟩, hkept, rfl⟩ := List.mem_map.1 (hnames ▸ hname)
    obtain ⟨hentry, hdefined⟩ := List.mem_filter.1 hkept
    have hpart := (mem_iff_lookup (Fields.nodup_of_sorted sorted)).1 hentry
    have hnull : isUndefined context part = true → ∀ found : Json, found = .null := by
      intro hundefined
      simp [hundefined] at hdefined
    obtain ⟨found, hfound⟩ := Option.ne_none_iff_exists'.1 fun hnone =>
      lookup_eq_none_iff_not_mem.1 hnone hname
    obtain ⟨found', hfound'⟩ := Option.ne_none_iff_exists'.1 fun hnone =>
      lookup_eq_none_iff_not_mem.1 hnone (hnames'.trans hnames.symm ▸ hname)
    rw [hfound, hfound']
    exact congrArg some (same _ hentry (mirrors.part (.name own) hpart hfound (hnull · found))
      (others.part (.name own) hpart hfound' (hnull · found')))
  · rw [lookup_eq_none_iff_not_mem.2 hname]
    rw [hnames, ← hnames'] at hname
    rw [lookup_eq_none_iff_not_mem.2 hname]

mutual

/-- Only one value looks like a template. -/
theorem unique : ∀ {tree value other : Json}, tree.Canonical → Mirrors context tree value →
    Mirrors context tree other → value = other
  | .string _, _, _, _, mirrors, others => mirrors.unique_text others
  | .array _, _, _, canonical, mirrors, others =>
      mirrors.unique_array others (unique_items canonical)
  | .object _, _, _, ⟨sorted, canonical⟩, mirrors, others =>
      mirrors.unique_object sorted others (unique_entries canonical)
  | .null, _, _, _, mirrors, others => mirrors.unique_scalar others (.inl rfl)
  | .bool b, _, _, _, mirrors, others => mirrors.unique_scalar others (.inr (.inl ⟨b, rfl⟩))
  | .number n, _, _, _, mirrors, others => mirrors.unique_scalar others (.inr (.inr ⟨n, rfl⟩))

theorem unique_items : ∀ {items : List Json}, Json.CanonicalItems items → ∀ item ∈ items,
    ∀ {value other : Json}, Mirrors context item value → Mirrors context item other → value = other
  | _ :: _, ⟨hfirst, hrest⟩, item, hmem, _, _, mirrors, others => by
      rcases List.mem_cons.1 hmem with hhere | hlater
      · rw [hhere] at mirrors others
        exact unique hfirst mirrors others
      · exact unique_items hrest item hlater mirrors others

theorem unique_entries : ∀ {entries : List (String × Json)}, Json.CanonicalEntries entries →
    ∀ entry ∈ entries, ∀ {value other : Json}, Mirrors context entry.2 value →
      Mirrors context entry.2 other → value = other
  | (_, _) :: _, ⟨hfirst, hrest⟩, entry, hmem, _, _, mirrors, others => by
      rcases List.mem_cons.1 hmem with hhere | hlater
      · rw [hhere] at mirrors others
        exact unique hfirst mirrors others
      · exact unique_entries hrest entry hlater mirrors others

end

end Mirrors

end OutputTemplate
end EventRules
