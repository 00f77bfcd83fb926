import Audience.Proofs.Loading
import Audience.Proofs.Order

/-!
# Selecting from the catalog

A segment can be selected in two ways: as the catalog has read it, found there
by its id, or as the saved object itself, which is then read in the middle of
every filter pass and of every preview. The two routes read the same object at
different times, and one of them inside a pass that protects itself against
failures.

Whatever uses a selection asks for nothing but the segment that it comes to
(`Selection.resolve`): the filter (`Controls.filter_of_resolve_eq`), the preview
(`Preview.of_resolve_eq`) and, through one pass after the other, the refresh
(`Request.refresh_of_resolve_eq`), whose state keeps the selection as it was
handed over. So it is enough that the catalog finds the segment of the first
object with the id (`Catalog.resolve_chosen`), and that this object can be read
without a failure, which is what loading the catalog has shown.
-/

namespace Audience

variable {a b : Selection}

/-! ## Selections that come to the same segment -/

theorem Controls.filter_of_resolve_eq (h : a.resolve = b.resolve) (controls : Controls)
    (kind records clients : Value) :
    (controls.withSegment a).filter kind records clients
      = (controls.withSegment b).filter kind records clients := by
  simp only [filter, withSegment, h]

theorem Preview.of_resolve_eq (h : a.resolve = b.resolve) (records kind clients : Value)
    (size : Option Int) :
    Preview.of a records kind clients size = Preview.of b records kind clients size := by
  simp only [Preview.of, h]

namespace Dashboard

variable {clock : Instant} {d : Dashboard}

/-- The state with another selection. -/
def select (d : Dashboard) (a : Selection) : Dashboard := { d with segment := some a }

def Outcome.select (o : Outcome) (a : Selection) : Outcome := ⟨o.state.select a, o.failure⟩

theorem Outcome.result_select (o : Outcome) (a : Selection) :
    (o.select a).result = o.result.map fun d => d.select a := by
  unfold result
  cases h : o.failure with
  | none => simp [Outcome.select, h, Except.map]
  | some failure => simp [Outcome.select, h, Except.map]

/-- What a pass writes does not touch the selection. -/
theorem Effect.on_select (x : Effect) (label : Text) (d : Dashboard) (a : Selection) :
    x.on label (d.select a) = (x.on label d).select a := by
  have herrors : (d.select a).errors = d.errors := rfl
  unfold on fallBack
  rw [herrors]
  cases x.failure with
  | none => rfl
  | some failure => cases d.errors.getD (.list []) <;> rfl

/-- A pass has the same work to do with a selection of the same segment. Only
the filter pass looks at it. -/
theorem Pass.effect_select (h : a.resolve = b.resolve) (hd : d.segment = some b) (pass : Pass) :
    pass.effect clock (d.select a) = pass.effect clock d := by
  cases pass with
  | filter =>
      have hcontrols : d.controls = d.controls.withSegment b := by
        simp only [controls, hd, Option.getD_some, Controls.withSegment]
      have hfiltering : (d.select a).filtering = d.filtering := by
        rw [filtering, filtering, hcontrols]
        exact Controls.filter_of_resolve_eq h d.controls _ _ _
      simp only [effect, hfiltering]
      rfl
  | queue => rfl
  | board => rfl

theorem Pass.run_select (h : a.resolve = b.resolve) (hd : d.segment = some b) (pass : Pass) :
    pass.run clock (d.select a) = (pass.run clock d).select a := by
  rw [run_eq, run_eq, effect_select h hd]
  cases pass.effect clock d with
  | error failure => rfl
  | ok x => exact x.on_select pass.label d a

/-- A run of passes, by induction on the passes; none of them owns the
selection, so it is still there for the next one. -/
theorem runAll_select (h : a.resolve = b.resolve) (hd : d.segment = some b)
    (passes : List Pass) :
    runAll clock passes (d.select a) = (runAll clock passes d).map fun d => d.select a := by
  induction passes generalizing d with
  | nil => rfl
  | cons pass rest ih =>
      rw [runAll, runAll, Pass.run_select h hd, Outcome.result_select]
      cases hresult : (pass.run clock d).result with
      | error failure => rfl
      | ok d' =>
          have hkept : d'.Same d .segment :=
            Pass.run_frame (Outcome.result_eq_ok_iff.1 hresult) (by cases pass <;> decide)
          exact ih (Eq.trans hkept hd)

theorem run_select (h : a.resolve = b.resolve) (hd : d.segment = some b) :
    (d.select a).run clock = (d.run clock).map fun d => d.select a := by
  rw [run_eq_runAll, run_eq_runAll]
  exact runAll_select h hd d.tabPasses

end Dashboard

namespace Request

theorem start_withSegment (r : Request) (a b : Selection) :
    (r.withSegment a).start = (r.withSegment b).start.map fun d => d.select a := by
  simp only [start, withSegment]
  cases r.records.elementsOrNone with
  | error failure => rfl
  | ok records =>
      cases r.clients.elementsOrNone with
      | error failure => rfl
      | ok clients => cases r.quotes.elementsOrNone <;> rfl

/-- **The same segment, the same refresh.** Whether it ends, and what it leaves,
depends on the segment that a selection comes to. -/
theorem refresh_of_resolve_eq (h : a.resolve = b.resolve) (clock : Instant) (r : Request) :
    (r.withSegment a).refresh clock
      = ((r.withSegment b).refresh clock).map fun d => d.select a := by
  rw [refresh, refresh, start_withSegment r a b]
  cases hstart : (r.withSegment b).start with
  | error failure => rfl
  | ok d =>
      have hd : d.segment = some b := by
        obtain ⟨_, _, _, -, -, -, rfl⟩ := start_eq_ok_iff.1 hstart
        rfl
      exact Dashboard.run_select h hd

end Request

/-! ## Finding a segment -/

/-- The first result with a property is that of the first item with it. -/
theorem Attempt.find?_each {α β : Type} {f : α → Attempt β} {l : List α} {bs : List β}
    {p : α → Bool} {q : β → Bool} (h : each f l = .ok bs)
    (hpq : ∀ x ∈ l, ∀ y, f x = .ok y → p x = q y) :
    (bs.find? q).map .ok = (l.find? p).map f := by
  induction l generalizing bs with
  | nil =>
      obtain rfl := Except.ok.inj h
      rfl
  | cons x rest ih =>
      obtain ⟨y, ys, hy, hys, rfl⟩ := each_cons_eq_ok_iff.1 h
      obtain ⟨hfirst, hrest⟩ := List.forall_mem_cons.1 hpq
      rw [List.find?_cons, List.find?_cons, hfirst y hy]
      cases q y with
      | true => exact congrArg some hy.symm
      | false => exact ih hys hrest

namespace Catalog

/-- What is selected by an id in a catalog: the segment found there, or none. -/
def chosen (catalog : List Segment) (id : Value) : Selection :=
  ((find catalog id).map .read).getD (.saved .null)

/-- The first object in a list whose id counts as given and has a text. -/
def rawWithId? (entries : List Value) (id : Text) : Option Value :=
  (objects entries).find? fun entry => (entry.fields.get "id").given? = some id

/-- What is selected by handing over that object, or null without one. -/
def inline (entries : List Value) (id : Text) : Selection :=
  .saved ((rawWithId? entries id).getD .null)

variable {entries : List Value} {segments : List Segment} {id : Text}

theorem id_eq_iff {entry : Value} {s : Segment} (hentry : entry.fields?.isSome)
    (hs : Segment.ofValue entry = .ok s) (hid : id ≠ []) :
    s.id = id ↔ (entry.fields.get "id").given? = some id := by
  cases entry with
  | object fields =>
      obtain ⟨_, _, _, -, -, -, rfl⟩ := Segment.ofValue_object_eq_ok_iff.1 hs
      change (if (Fields.get fields "id").isTruthy then (Fields.get fields "id").describe
          else []) = id ↔ (if (Fields.get fields "id").isTruthy then
            some (Fields.get fields "id").describe else none) = some id
      split
      · exact Option.some_inj.symm
      · exact iff_of_false hid.symm nofun
  | _ => cases hentry

/-- The segment found in a catalog is that of the first object with the id. -/
theorem find_map_ok (h : Attempt.each Segment.ofValue (objects entries) = .ok segments)
    (hid : id ≠ []) :
    (find segments (.text id)).map .ok = (rawWithId? entries id).map Segment.ofValue := by
  have hgiven : (Value.text id).isTruthy = true := by
    rw [Value.isTruthy, Bool.not_eq_true', List.isEmpty_eq_false_iff]
    exact hid
  rw [find, if_pos hgiven, rawWithId?]
  refine Attempt.find?_each h fun entry hentry s hs => ?_
  rw [Bool.eq_iff_iff, decide_eq_true_iff, ← id_eq_iff (List.mem_filter.1 hentry).2 hs hid,
    Value.isText, decide_eq_true_iff, eq_comm]

/-- **Both routes come to the same segment**, without a failure. -/
theorem resolve_chosen (h : Attempt.each Segment.ofValue (objects entries) = .ok segments)
    (hid : id ≠ []) : (chosen segments (.text id)).resolve = (inline entries id).resolve := by
  have hfound := find_map_ok h hid
  rw [chosen, inline]
  cases hraw : rawWithId? entries id with
  | none =>
      rw [hraw, Option.map_none, Option.map_eq_none_iff] at hfound
      rw [hfound]
      rfl
  | some entry =>
      rw [hraw, Option.map_some, Option.map_eq_some_iff] at hfound
      obtain ⟨s, hs, hread⟩ := hfound
      have hentry : entry.fields?.isSome :=
        (List.mem_filter.1 (List.mem_of_find?_eq_some hraw)).2
      rw [hs]
      cases entry with
      | object fields =>
          exact (Selection.resolve_saved_object_eq_ok_iff.2 ⟨s, hread.symm, rfl⟩).symm
      | _ => cases hentry

/-- **Selecting from the catalog is handing over the saved object.** Let a
catalog be loaded from a file that holds a list. For every id that is not
empty, a refresh with the segment found in the catalog fails as one with the
first object of the list that has the id does, or leaves the same state but
for the selection itself; and the same goes for a preview. If no object has
the id, no segment is selected either way. -/
theorem chosen_as_inline {octets : List Nat} {t : Text} {v : Value} {entries : List Value}
    {segments : List Segment} {loadedAt : Instant} (hdecode : Utf8.decode octets = some t)
    (hread : Json.read t = .ok v) (hlist : listed? v = some entries)
    (hload : load (some octets) loadedAt = .ok segments) {id : Text} (hid : id ≠ []) :
    (∀ (clock : Instant) (r : Request),
        (r.withSegment (chosen segments (.text id))).refresh clock
          = ((r.withSegment (inline entries id)).refresh clock).map
              fun d => d.select (chosen segments (.text id)))
      ∧ (∀ (records kind clients : Value) (size : Option Int),
          Preview.of (chosen segments (.text id)) records kind clients size
            = Preview.of (inline entries id) records kind clients size)
      ∧ (rawWithId? entries id = none → chosen segments (.text id) = .saved .null) := by
  obtain ⟨saved, hsaved, hsegments⟩ := load_eq_ok_iff.1 hload
  rw [entries_of_listed hdecode hread hlist] at hsaved
  cases hsaved
  have hresolve := resolve_chosen hsegments hid
  refine ⟨fun clock r => Request.refresh_of_resolve_eq hresolve clock r,
    fun records kind clients size => Preview.of_resolve_eq hresolve records kind clients size,
    fun hnone => ?_⟩
  have hfound := find_map_ok hsegments hid
  rw [hnone, Option.map_none, Option.map_eq_none_iff] at hfound
  rw [chosen, hfound]
  rfl

/-- A file with a segment whose id is a number, before one whose id is the text
of that number. -/
def numberedFile : Text :=
  Text.ofString "[5,\x7b\"id\":7,\"criteria\":[\x7b\"field\":\"state\",\"value\":\"ca\"\x7d]\x7d,"
    ++ Text.ofString "\x7b\"id\":\"7\"\x7d]"

def numberedEntries : List Value :=
  [.int 5, .object [("id", .int 7), ("criteria", .list [Controls.californian])],
    .object [("id", .text "7")]]

def coastTab : Request where
  kind := .text Kind.client.name
  records := .list Controls.coastClients

/-- Its seventh segment has the Californians, found by id or handed over. -/
theorem numberedFile_chosen :
    Utf8.decode (Utf8.encode numberedFile) = some numberedFile
      ∧ Json.read numberedFile = .ok (.list numberedEntries)
      ∧ ∃ segments d, load (some (Utf8.encode numberedFile)) midJune = .ok segments
        ∧ (coastTab.withSegment (inline numberedEntries "7")).refresh midJune = .ok d
        ∧ d.filtered = some (.list [Controls.coastClients[0], Controls.coastClients[3]])
        ∧ (coastTab.withSegment (chosen segments (.text "7"))).refresh midJune
            = .ok (d.select (chosen segments (.text "7"))) := by
  have hdecode : Utf8.decode (Utf8.encode numberedFile) = some numberedFile := by decide +kernel
  have hread : Json.read numberedFile = .ok (.list numberedEntries) := by rfl
  obtain ⟨segments, hsegments⟩ := Attempt.failure?_eq_none_iff.1
    (show (load (some (Utf8.encode numberedFile)) midJune).failure? = none by decide +kernel)
  have hinline : (coastTab.withSegment (inline numberedEntries "7")).refresh midJune
      = .ok (coastTab.withSegment (inline numberedEntries "7")).otherTab :=
    Request.refresh_other ⟨⟨_, rfl⟩, Value.isListOrNull_list _, .inl rfl, .inl rfl⟩
      fun hlead => absurd (Value.text.inj hlead) (by decide)
  obtain ⟨hrefresh, -, -⟩ := chosen_as_inline hdecode hread rfl hsegments
    (show Text.ofString "7" ≠ [] by decide)
  refine ⟨hdecode, hread, segments, _, hsegments, hinline, by rfl, ?_⟩
  rw [hrefresh midJune coastTab, hinline]
  rfl

end Catalog

end Audience
