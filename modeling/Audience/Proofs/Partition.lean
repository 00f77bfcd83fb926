import Audience.Proofs.Lanes

/-!
# The board is a partition

The lanes of a board divide the leads that have one of the four statuses, and
count in each lane the leads that some quote converts. Both are said here
without the loop that builds the board: `Board.HasStatus` looks at one lead,
`Board.Converts` at one quote and one lead. `Board.IsPartition` puts them
together.

Nothing in it depends on an order. The ids of converted leads are needed for
membership only (`isConverted_iff`), and whether a board can be built is asked of
every lead and every quote for itself (`exists_build_list_ok_iff`). So other
orders of the leads and of the quotes give the same board but for the order
within the lanes, and the total, which is rounded lead by lead and is not spoken
of here; and quotes made twice give the same board altogether
(`Board.build_partition`).
-/

namespace Audience

namespace Value

theorem isNull_eq_false_iff {v : Value} : v.isNull = false ↔ v ≠ .null := by
  cases v <;> simp [isNull]

/-- Only an object has members that are not null. -/
theorem eq_object_of_get_ne_null {v : Value} {key : Text} (h : v.fields.get key ≠ .null) :
    v = .object v.fields := by
  cases v with
  | object fields => rfl
  | _ => exact absurd rfl h

end Value

namespace Board

variable {leads quotes : List Value} {ids : List Text} {board : List Lane}
  {status : Text} {lead quote : Value}

/-! ## Leads and quotes -/

/-- An object whose status is a text. -/
def HasStatus (status : Text) (lead : Value) : Prop :=
  ∃ fields, lead = .object fields ∧ Fields.get fields "status" = .text status

theorem isIn_iff : isIn status lead = true ↔ HasStatus status lead := by
  rw [isIn, Value.isText_iff]
  constructor
  · intro h
    exact ⟨_, Value.eq_object_of_get_ne_null (by rw [h]; exact Value.noConfusion), h⟩
  · rintro ⟨fields, rfl, h⟩
    exact h

instance : Decidable (HasStatus status lead) := decidable_of_iff _ isIn_iff

/-- A quote that was accepted or converted, for a lead with the same text as
id. -/
def Converts (quote lead : Value) : Prop :=
  ∃ q l, quote = .object q ∧ lead = .object l
    ∧ (Fields.get q "status" = .text "Accepted" ∨ Fields.get q "status" = .text "Converted")
    ∧ Fields.get q "leadId" ≠ .null ∧ Fields.get l "id" ≠ .null
    ∧ (Fields.get l "id").describe = (Fields.get q "leadId").describe

theorem any_convertingStatuses {v : Value} :
    convertingStatuses.any v.isText = true ↔ v = .text "Accepted" ∨ v = .text "Converted" := by
  simp only [convertingStatuses, List.any_cons, List.any_nil, Bool.or_false, Bool.or_eq_true,
    Value.isText_iff]

theorem convertedId?_eq_some_iff {id : Text} :
    convertedId? quote = .ok (some id) ↔
      ∃ q, quote = .object q
        ∧ (Fields.get q "status" = .text "Accepted" ∨ Fields.get q "status" = .text "Converted")
        ∧ Fields.get q "leadId" ≠ .null ∧ id = (Fields.get q "leadId").describe := by
  constructor
  · intro h
    cases quote with
    | object q =>
        rw [convertedId?] at h
        cases hid : (Fields.get q "leadId").isNull with
        | true => simp [hid] at h
        | false =>
            simp only [hid, Bool.false_eq_true, if_false, Attempt.bind_eq_ok_iff] at h
            obtain ⟨status, hkey, h⟩ := h
            unfold Value.asKey at hkey
            split at hkey
            · cases hkey
            · cases hkey
              split at h
              · rename_i hany
                cases h
                exact ⟨q, rfl, any_convertingStatuses.1 hany, Value.isNull_eq_false_iff.1 hid, rfl⟩
              · cases h
    | _ => cases h
  · rintro ⟨q, rfl, hstatus, hid, rfl⟩
    have hany := any_convertingStatuses.2 hstatus
    have hkey : (Fields.get q "status").asKey = .ok (Fields.get q "status") := by
      rcases hstatus with h | h <;> rw [h] <;> rfl
    rw [convertedId?]
    simp only [Value.isNull_eq_false_iff.2 hid, Bool.false_eq_true, if_false, hkey]
    change (pure (if _ then _ else _) : Attempt (Option Text)) = _
    rw [if_pos hany]
    rfl

theorem isConverted_eq_true_iff :
    isConverted ids lead = true ↔
      ∃ l, lead = .object l ∧ Fields.get l "id" ≠ .null ∧ (Fields.get l "id").describe ∈ ids := by
  simp only [isConverted, Bool.and_eq_true, Bool.not_eq_true', Value.isNull_eq_false_iff,
    List.elem_eq_mem, decide_eq_true_eq]
  constructor
  · rintro ⟨hid, hmem⟩
    exact ⟨_, Value.eq_object_of_get_ne_null hid, hid, hmem⟩
  · rintro ⟨l, rfl, h⟩
    exact h

/-- What a quote converts is read off its own id alone. -/
theorem converts_iff :
    Converts quote lead ↔
      ∃ id, convertedId? quote = .ok (some id) ∧ isConverted [id] lead = true := by
  simp only [convertedId?_eq_some_iff, isConverted_eq_true_iff, List.mem_singleton]
  constructor
  · rintro ⟨q, l, hq, hl, hstatus, hleadId, hid, htext⟩
    exact ⟨_, ⟨q, hq, hstatus, hleadId, rfl⟩, l, hl, hid, htext⟩
  · rintro ⟨_, ⟨q, hq, hstatus, hleadId, rfl⟩, l, hl, hid, htext⟩
    exact ⟨q, l, hq, hl, hstatus, hleadId, hid, htext⟩

instance : Decidable (Converts quote lead) :=
  match hid : convertedId? quote with
  | .ok (some id) =>
    decidable_of_iff (isConverted [id] lead = true) (by simp [converts_iff, hid])
  | .ok none => isFalse (by simp [converts_iff, hid])
  | .error failure => isFalse (by simp [converts_iff, hid])

/-! ## The ids of converted leads -/

theorem mem_insertId {id new : Text} : id ∈ insertId new ids ↔ id = new ∨ id ∈ ids := by
  induction ids with
  | nil => simp [insertId]
  | cons i rest ih =>
      unfold insertId
      split
      · rename_i heq
        rw [heq, List.mem_cons]
        exact ⟨.inr, Or.rec .inl fun hmem => hmem⟩
      · split
        · rw [List.mem_cons]
        · rw [List.mem_cons, ih, List.mem_cons, or_left_comm]

theorem mem_foldr_insertId {id : Text} {new : List Text} :
    id ∈ new.foldr insertId [] ↔ id ∈ new := by
  induction new with
  | nil => rfl
  | cons first rest ih => rw [List.foldr_cons, mem_insertId, ih, List.mem_cons]

theorem mem_convertedIds (h : convertedIds (.list quotes) = .ok ids) {text : Text} :
    text ∈ ids ↔ ∃ quote ∈ quotes, convertedId? quote = .ok (some text) := by
  rw [convertedIds_list] at h
  obtain ⟨results, hresults, rfl⟩ := Attempt.map_eq_ok_iff.1 h
  rw [mem_foldr_insertId, List.mem_filterMap, ← Attempt.mem_each_iff hresults]
  exact ⟨fun ⟨_, hmem, heq⟩ => heq ▸ hmem, fun hmem => ⟨_, hmem, rfl⟩⟩

/-- A lead is counted as converted if some quote converts it. -/
theorem isConverted_iff (h : convertedIds (.list quotes) = .ok ids) :
    isConverted ids lead = true ↔ ∃ quote ∈ quotes, Converts quote lead := by
  have hone : ∀ id, isConverted [id] lead = true ↔
      ∃ l, lead = .object l ∧ Fields.get l "id" ≠ .null ∧ (Fields.get l "id").describe = id := by
    intro id
    rw [isConverted_eq_true_iff]
    simp only [List.mem_singleton]
  rw [isConverted_eq_true_iff]
  simp only [converts_iff, hone, mem_convertedIds h]
  constructor
  · rintro ⟨l, hl, hid, quote, hquote, hread⟩
    exact ⟨quote, hquote, _, hread, l, hl, hid, rfl⟩
  · rintro ⟨quote, hquote, _, hread, l, hl, hid, rfl⟩
    exact ⟨l, hl, hid, quote, hquote, hread⟩

/-- Which leads are converted depends on what quotes there are, not on their
order or number. -/
theorem isConverted_congr {quotes' : List Value} {ids' : List Text}
    (h : convertedIds (.list quotes) = .ok ids) (h' : convertedIds (.list quotes') = .ok ids')
    (hsame : ∀ quote, quote ∈ quotes' ↔ quote ∈ quotes) :
    isConverted ids' = isConverted ids := by
  funext lead
  rw [Bool.eq_iff_iff, isConverted_iff h, isConverted_iff h']
  exact exists_congr fun quote => and_congr_left fun _ => hsame quote

/-! ## Single lanes -/

/-- A lane of a board in full, but for its total. -/
theorem lane_spec {l : Lane} (h : lane ids leads status = .ok l) :
    l.status = status ∧ l.leads = leads.filter (isIn status)
      ∧ l.convertedCount = l.leads.countP (isConverted ids)
      ∧ l.conversionRate
        = if l.leads.isEmpty then 0 else percentage l.convertedCount l.leads.length := by
  obtain ⟨amounts, -, hl⟩ := Attempt.bind_eq_ok_iff.1 h
  cases hl
  exact ⟨rfl, rfl, rfl, rfl⟩

theorem lane_of_mem (hlanes : Attempt.each (lane ids leads) statuses = .ok board) {l : Lane}
    (hl : l ∈ board) : lane ids leads l.status = .ok l := by
  obtain ⟨status, -, hstatus⟩ := (Attempt.mem_each_iff hlanes).1 hl
  rwa [(lane_spec hstatus).1]

/-- The ids of converted leads enter a lane only where a lead is looked up. -/
theorem lane_congr {ids' : List Text} (h : isConverted ids' = isConverted ids) :
    lane ids' leads status = lane ids leads status := by
  rw [lane, h, lane]

/-! ## The partition -/

/-- A board that divides leads by status and counts in each lane the leads that
some quote converts. -/
structure IsPartition (leads quotes : List Value) (board : List Lane) : Prop where
  statuses_eq : board.map Lane.status = (["New", "Contacted", "Qualified", "Lost"] : List Text)
  /-- A lane has all leads of its status, in order and as often as they come. -/
  leads_eq : ∀ l ∈ board, l.leads = leads.filter fun lead => HasStatus l.status lead
  /-- A lead with the status of a lane is in that lane and in no other. -/
  unique : ∀ lead ∈ leads, ∀ status ∈ statuses, HasStatus status lead →
    ∃ l ∈ board, l.status = status ∧ lead ∈ l.leads ∧ ∀ m ∈ board, lead ∈ m.leads → m = l
  /-- No other lead is in a lane. -/
  only : ∀ l ∈ board, ∀ lead ∈ l.leads,
    lead ∈ leads ∧ ∃ status ∈ statuses, HasStatus status lead
  convertedCount_eq : ∀ l ∈ board,
    l.convertedCount = l.leads.countP fun lead => ∃ quote ∈ quotes, Converts quote lead
  convertedCount_le : ∀ l ∈ board, l.convertedCount ≤ l.leads.length

theorem HasStatus.unique {status' : Text} (h : HasStatus status lead)
    (h' : HasStatus status' lead) : status' = status := by
  obtain ⟨fields, rfl, hstatus⟩ := h
  obtain ⟨_, heq, hstatus'⟩ := h'
  cases heq
  rw [hstatus] at hstatus'
  cases hstatus'
  rfl

/-- Two lanes of a status are the same lane. -/
theorem lane_unique (hlanes : Attempt.each (lane ids leads) statuses = .ok board) {l m : Lane}
    (hl : l ∈ board) (hm : m ∈ board) (hstatus : m.status = l.status) : m = l := by
  have hlane := lane_of_mem hlanes hm
  rw [hstatus, lane_of_mem hlanes hl] at hlane
  exact (Except.ok.inj hlane).symm

theorem isPartition_of_build (h : build (.list leads) (.list quotes) = .ok board) :
    IsPartition leads quotes board := by
  obtain ⟨ids, hids, hlanes⟩ := build_list_eq_ok_iff.1 h
  have hleads : ∀ l ∈ board, l.leads = leads.filter fun lead => HasStatus l.status lead := by
    intro l hl
    rw [(lane_spec (lane_of_mem hlanes hl)).2.1]
    refine List.filter_congr fun lead _ => ?_
    rw [Bool.eq_iff_iff, isIn_iff, decide_eq_true_iff]
  have hmem : ∀ l ∈ board, ∀ lead, lead ∈ l.leads ↔ lead ∈ leads ∧ HasStatus l.status lead := by
    intro l hl lead
    rw [hleads l hl, List.mem_filter, decide_eq_true_iff]
  have hcount : ∀ l ∈ board,
      l.convertedCount = l.leads.countP fun lead => ∃ quote ∈ quotes, Converts quote lead := by
    intro l hl
    rw [(lane_spec (lane_of_mem hlanes hl)).2.2.1]
    refine List.countP_congr fun lead _ => ?_
    rw [isConverted_iff hids, decide_eq_true_iff]
  refine ⟨status_of_build h, hleads, ?_, ?_, hcount, ?_⟩
  · intro lead hlead status hstatus hhas
    rw [← status_of_build h] at hstatus
    obtain ⟨l, hl, rfl⟩ := List.mem_map.1 hstatus
    refine ⟨l, hl, rfl, (hmem l hl lead).2 ⟨hlead, hhas⟩, fun m hm hin => ?_⟩
    exact lane_unique hlanes hl hm (hhas.unique ((hmem m hm lead).1 hin).2)
  · intro l hl lead hin
    obtain ⟨hlead, hhas⟩ := (hmem l hl lead).1 hin
    refine ⟨hlead, l.status, ?_, hhas⟩
    rw [← status_of_build h]
    exact List.mem_map_of_mem hl
  · intro l hl
    rw [hcount l hl]
    exact List.countP_le_length

/-! ## Other orders -/

/-- Lanes that differ in the order of their leads at most. The total is left
out: it is rounded lead by lead. -/
structure Alike (l l' : Lane) : Prop where
  leads : l'.leads.Perm l.leads
  convertedCount : l'.convertedCount = l.convertedCount
  conversionRate : l'.conversionRate = l.conversionRate

theorem alike_of_perm {leads' : List Value} {ids' : List Text} (hperm : leads'.Perm leads)
    (hids : isConverted ids' = isConverted ids) {l l' : Lane}
    (h : lane ids leads status = .ok l) (h' : lane ids' leads' status = .ok l') : Alike l l' := by
  obtain ⟨-, hleads, hcount, hrate⟩ := lane_spec h
  obtain ⟨-, hleads', hcount', hrate'⟩ := lane_spec h'
  have hsame : l'.leads.Perm l.leads := by
    rw [hleads, hleads']
    exact hperm.filter _
  have hconverted : l'.convertedCount = l.convertedCount := by
    rw [hcount', hids, hsame.countP_eq, hcount]
  refine ⟨hsame, hconverted, ?_⟩
  rw [hrate', hrate, hconverted, hsame.length_eq, hsame.isEmpty_eq]

/-- What makes a board fail is a matter of the leads and quotes there are. -/
theorem exists_build_congr {leads' quotes' : List Value}
    (hleads : ∀ lead, lead ∈ leads' ↔ lead ∈ leads)
    (hquotes : ∀ quote, quote ∈ quotes' ↔ quote ∈ quotes) :
    (∃ board, build (.list leads') (.list quotes') = .ok board) ↔
      ∃ board, build (.list leads) (.list quotes) = .ok board := by
  simp only [exists_build_list_ok_iff, exists_convertedIds_ok_iff, hleads, hquotes]

theorem build_of_same_quotes (h : build (.list leads) (.list quotes) = .ok board)
    {quotes' : List Value} (hsame : ∀ quote, quote ∈ quotes' ↔ quote ∈ quotes) :
    build (.list leads) (.list quotes') = .ok board := by
  obtain ⟨ids, hids, hlanes⟩ := build_list_eq_ok_iff.1 h
  obtain ⟨_, h'⟩ := (exists_build_congr (fun _ => Iff.rfl) hsame).2 ⟨board, h⟩
  obtain ⟨ids', hids', -⟩ := build_list_eq_ok_iff.1 h'
  have hsameLanes : lane ids' leads = lane ids leads :=
    funext fun _ => lane_congr (isConverted_congr hids hids' hsame)
  exact build_list_eq_ok_iff.2 ⟨ids', hids', by rw [hsameLanes, hlanes]⟩

/-- A board that can be built, known by what its lanes have to say. -/
theorem exists_build_of_map {leads quotes : Value} {α : Type} {f : Lane → α} {lanes : List α}
    (h : (build leads quotes).toOption.map (List.map f) = some lanes) :
    ∃ board, build leads quotes = .ok board ∧ board.map f = lanes := by
  cases hbuild : build leads quotes with
  | error failure =>
      rw [hbuild] at h
      cases h
  | ok board =>
      rw [hbuild] at h
      exact ⟨board, rfl, Option.some.inj h⟩

/-- **The board is a partition that no order matters to.** -/
theorem build_partition (h : build (.list leads) (.list quotes) = .ok board) :
    IsPartition leads quotes board
    ∧ (∀ leads' quotes' : List Value, leads'.Perm leads → quotes'.Perm quotes →
        ∃ board', build (.list leads') (.list quotes') = .ok board'
          ∧ board'.map Lane.status = board.map Lane.status
          ∧ ∀ l ∈ board, ∀ l' ∈ board', l'.status = l.status → Alike l l')
    ∧ (∀ quotes' : List Value, (∀ quote, quote ∈ quotes' ↔ quote ∈ quotes) →
        build (.list leads) (.list quotes') = .ok board) := by
  refine ⟨isPartition_of_build h, fun leads' quotes' hleads hquotes => ?_,
    fun quotes' hsame => build_of_same_quotes h hsame⟩
  obtain ⟨board', h'⟩ := (exists_build_congr (fun _ => hleads.mem_iff)
    fun _ => hquotes.mem_iff).2 ⟨board, h⟩
  have hstatuses : board'.map Lane.status = board.map Lane.status :=
    (status_of_build h').trans (status_of_build h).symm
  refine ⟨board', h', hstatuses, fun l hl l' hl' hstatus => ?_⟩
  obtain ⟨ids, hids, hlanes⟩ := build_list_eq_ok_iff.1 h
  obtain ⟨ids', hids', hlanes'⟩ := build_list_eq_ok_iff.1 h'
  have hlane' := lane_of_mem hlanes' hl'
  rw [hstatus] at hlane'
  exact alike_of_perm hleads (isConverted_congr hids hids' fun _ => hquotes.mem_iff)
    (lane_of_mem hlanes hl) hlane'

/-- Leads in three lanes and in none, one of them twice, with ids that are
numbers and texts. -/
def mixedPipeline : List Value :=
  [.object [("id", .int 7), ("status", .text "New"), ("estimatedValue", .int 900)],
    .object [("id", .text "b"), ("status", .text "Lost"), ("estimatedValue", .text "n/a")],
    .text "New", .object [("id", .null), ("status", .text "New")],
    .object [("id", .text "b"), ("status", .text "Lost"), ("estimatedValue", .text "n/a")],
    .object [("id", .text "c"), ("status", .text "Won"), ("estimatedValue", .int 5)],
    .object [("id", .bool true), ("status", .text "Qualified")]]

/-- Quotes for three of them, one for a lead without an id, and values that are
no quotes. -/
def mixedQuotes : List Value :=
  [.object [("leadId", .text "7"), ("status", .text "Accepted")], .null,
    .object [("leadId", .text "b"), ("status", .text "Sent")],
    .object [("leadId", .null), ("status", .list [])],
    .object [("leadId", .text "True"), ("status", .text "Converted")]]

theorem mixedPipeline_partition :
    ∃ board, build (.list mixedPipeline) (.list mixedQuotes) = .ok board
      ∧ IsPartition mixedPipeline mixedQuotes board
      ∧ board.map (fun l => (l.leads.length, l.convertedCount, l.conversionRate))
        = [(2, 1, 50), (0, 0, 0), (1, 1, 100), (2, 0, 0)]
      ∧ (∃ board', build (.list mixedPipeline.reverse) (.list mixedQuotes.reverse) = .ok board'
          ∧ board'.map Lane.status = board.map Lane.status
          ∧ ∀ l ∈ board, ∀ l' ∈ board', l'.status = l.status → Alike l l')
      ∧ build (.list mixedPipeline) (.list (mixedQuotes ++ mixedQuotes)) = .ok board := by
  obtain ⟨board, h⟩ := Attempt.failure?_eq_none_iff.1
    (show (build (.list mixedPipeline) (.list mixedQuotes)).failure? = none by decide +kernel)
  obtain ⟨hpartition, horder, hrepeat⟩ := build_partition h
  have hcounts : (build (.list mixedPipeline) (.list mixedQuotes)).toOption.map
      (fun board => board.map fun l => (l.leads.length, l.convertedCount, l.conversionRate))
      = some [(2, 1, 50), (0, 0, 0), (1, 1, 100), (2, 0, 0)] := by decide +kernel
  rw [h] at hcounts
  refine ⟨board, h, hpartition, Option.some.inj hcounts,
    horder _ _ (List.reverse_perm _) (List.reverse_perm _), hrepeat _ fun quote => ?_⟩
  rw [List.mem_append, or_self]

end Board

end Audience
