import Audience.Preview
import Audience.Proofs.Composition

/-!
# Previews and the filter

A preview counts the records of an audience in a loop of its own, and the
filter pipeline collects them in two. Both ask the same of a record, namely
whether its context belongs to the segment, as long as the pipeline asks
nothing else (`Controls.IsPlain`).

`Preview.of_eq_keep` brings a preview to the form that the pipeline has in
`Controls.filter_eq_keep`: records that pass a test, and then what is made of
them. The rest is a comparison of the two tests, on all kinds of records that
the pipeline knows (`Preview.agrees_with_filter`).
-/

namespace Audience

namespace Projection

theorem textOf_texts (ts : List Text) : (texts ts).items.filterMap Value.text? = ts := by
  rw [texts, Value.items_list, List.filterMap_map]
  exact List.filterMap_some

end Projection

namespace Preview

variable {selection : Selection} {segment : Option Segment} {v clients : Value}
  {known : Option Kind} {index : ClientIndex} {records : List Value}
  {size : Option Int} {failure : Failure}

/-- The tags of a record of a known kind stand in the record itself. -/
theorem tagsOf_ofRecord (kind : Kind) (index : ClientIndex) (record : Value) :
    tagsOf (Context.ofRecord (some kind) index record)
      = Projection.tagNames (record.fields.get "tags") := by
  cases kind <;> exact Projection.textOf_texts _

/-- The sample that a preview shows, given the tags of the records that it
reaches: the most common of them, and the tags saved with the segment if there
are none. -/
def sample (segment : Option Segment) (size : Option Int) (tags : List Text) : List Value :=
  let top := topTags size tags
  if top.isEmpty then (segment.map Segment.sampleTags).getD [] else top.map .text

/-- What a preview shows of the records that it reaches. -/
def ofReached (segment : Option Segment) (known : Option Kind) (index : ClientIndex)
    (size : Option Int) (reached : List Value) : Preview where
  audienceCount := reached.length
  sampleTags := sample segment size
    (reached.flatMap fun record => tagsOf (Context.ofRecord known index record))

/-- **A preview, record by record.** The records that the segment accepts, and
what is shown of them. -/
theorem of_eq_keep (hkind : Kind.ofValue v = .ok known)
    (hindex : ClientIndex.ofValue clients = .ok index)
    (hsegment : selection.resolve = .ok segment) (records : List Value) (size : Option Int) :
    Preview.of selection (.list records) v clients size
      = (Attempt.keep (fun record =>
          Segment.acceptedBy segment (Context.ofRecord known index record)) records).map
            (ofReached segment known index size) := by
  have hcontexts : Attempt.each
      (fun record => (Kind.ofValue v).map fun known => Context.ofRecord known index record) records
        = .ok (records.map fun record => Context.ofRecord known index record) := by
    simp only [hkind, Except.map]
    exact Attempt.each_ok _ records
  rw [Preview.of, hindex, hsegment, Value.elementsOrNone_eq (Value.isListOrNull_list records),
    Value.items_list]
  simp only [bind, Except.bind, hcontexts]
  rw [Attempt.keep_map]
  cases Attempt.keep (fun record =>
      Segment.acceptedBy segment (Context.ofRecord known index record)) records with
  | error failure => rfl
  | ok reached =>
      simp only [Except.map, Attempt.pure_eq_ok, ofReached, sample,
        List.length_map, List.flatMap_map]

/-- A preview needs the clients and the segment, as the filter does. -/
theorem of_resolve_error (hindex : ClientIndex.ofValue clients = .ok index)
    (hsegment : selection.resolve = .error failure) (records : List Value) (size : Option Int) :
    Preview.of selection (.list records) v clients size = .error failure := by
  rw [Preview.of, hindex, hsegment]
  rfl

/-- **Previews agree with the filter.** A preview fails exactly as the filter
does when nothing but the segment is set, and otherwise shows the number of
records that the filter leaves and a sample of their tags. -/
theorem agrees_with_filter {controls : Controls} (hplain : controls.IsPlain) {v : Value}
    {kind : Kind} (hkind : Kind.named? v = some kind) {clients : Value}
    (hclients : clients.IsListOrNull) (records : List Value) (size : Option Int) :
    (∀ failure, Preview.of controls.segment (.list records) v clients size = .error failure ↔
        controls.filter v (.list records) clients = .error failure)
      ∧ ∀ preview, Preview.of controls.segment (.list records) v clients size = .ok preview →
          ∃ segment shown, controls.segment.resolve = .ok segment
            ∧ controls.filter v (.list records) clients = .ok shown
            ∧ preview.audienceCount = shown.length
            ∧ preview.sampleTags = sample segment size
                (shown.flatMap fun record => Projection.tagNames (record.fields.get "tags")) := by
  have hkind := Kind.ofValue_of_named hkind
  have hindex := ClientIndex.ofValue_eq hclients
  cases hsegment : controls.segment.resolve with
  | error failure =>
      rw [of_resolve_error hindex hsegment,
        Controls.filter_of_resolve_error hkind hindex hsegment]
      exact ⟨fun other => by simp, fun preview h => by cases h⟩
  | ok segment =>
      have hfilter :=
        Controls.filter_of_test (Controls.test_of_parts hkind hindex hsegment) records
      have hpreview := of_eq_keep hkind hindex hsegment records size
      -- the two tests of a record are the same
      have htest : (fun record => Segment.acceptedBy segment
            (Context.ofRecord (some kind) (.ofList clients.items) record))
          = controls.passes kind (.ofList clients.items) := by
        funext record
        rw [Controls.passes_of_isPlain hplain, Selection.accepts_of_resolve hsegment]
      rw [htest, ← hfilter] at hpreview
      rw [hpreview]
      refine ⟨fun failure => Attempt.map_eq_error_iff, fun preview h => ?_⟩
      obtain ⟨shown, hshown, rfl⟩ := Attempt.map_eq_ok_iff.1 h
      refine ⟨segment, shown, rfl, hshown, rfl, ?_⟩
      simp only [ofReached, tagsOf_ofRecord]

/-- The preview of the important clients, two of the four tags that they have
between them. -/
theorem agrees_with_filter_coast :
    ∃ preview shown,
      Preview.of (Controls.only [Controls.important]).segment (.list Controls.coastClients)
          (.text "client") .null (some 2) = .ok preview
        ∧ (Controls.only [Controls.important]).filter (.text "client")
            (.list Controls.coastClients) .null = .ok shown
        ∧ preview.audienceCount = shown.length ∧ shown = Controls.coastClients.take 2
        ∧ preview.sampleTags = [.text "VIP", .text "3"] := by
  have hfilter : (Controls.only [Controls.important]).filter (.text "client")
      (.list Controls.coastClients) .null = .ok (Controls.coastClients.take 2) := by rfl
  obtain ⟨preview, hpreview, htags⟩ : ∃ preview,
      Preview.of (Controls.only [Controls.important]).segment (.list Controls.coastClients)
          (.text "client") .null (some 2) = .ok preview
        ∧ preview.sampleTags = [.text "VIP", .text "3"] := ⟨_, by rfl, by rfl⟩
  obtain ⟨_, shown, -, hshown, hcount, -⟩ :=
    (agrees_with_filter (Controls.isPlain_null _) (by rfl) (.inl rfl)
      Controls.coastClients (some 2)).2 preview hpreview
  refine ⟨preview, shown, hpreview, hshown, hcount, ?_, htags⟩
  exact Except.ok.inj (hshown.symm.trans hfilter)

end Preview

end Audience
