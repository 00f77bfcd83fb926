import Audience.Catalog
import Audience.Proofs.Coercions

/-!
# Loading a catalog

A catalog is loaded in three stages, and each can fail in its own way: the text
may hold a numeral that is too long to be read, an entry may be one from which
no segment can be made (`Segment.Unreadable`), and the built-in segments that
stand in for a file without a list ask for dates that may lie before the
calendar. Nothing else matters, whatever else the file holds:
`Catalog.load_file_iff` says that these are all the failures, and that a file
with a list gives one segment for each object in it, in order.

An entry is judged member by member. Its count fails on infinities only
(`Value.exists_toCount_ok_iff`), its tags on values that count as given but have
no items (`Value.exists_elementsOrNone_ok_iff`), and its criteria one by one.
-/

namespace Audience

/-! ## Entries -/

namespace Value

theorem exists_toCount_ok_iff {v : Value} :
    (∃ n, v.toCount = .ok n) ↔ ¬ ∃ negative, v = .real (.infinite negative) := by
  cases v with
  | real x => cases x <;> simp [toCount]
  | _ => simp [toCount]

/-- A value that counts as given where items are due, but has none. -/
def LacksItems (v : Value) : Prop :=
  v.isTruthy = true ∧ (v.shape = .bool ∨ v.shape = .int ∨ v.shape = .real)

theorem exists_elementsOrNone_ok_iff {v : Value} :
    (∃ items, v.elementsOrNone = .ok items) ↔ ¬ v.LacksItems := by
  unfold elementsOrNone LacksItems
  split
  · rename_i hgiven
    cases v with
    | null => cases hgiven
    | _ => simp [elements, shape, hgiven]
  · rename_i hmissing
    exact iff_of_true ⟨[], rfl⟩ fun h => hmissing h.1

end Value

namespace Segment

/-- An entry from which no segment can be made. -/
def Unreadable (entry : Value) : Prop :=
  ∃ fields, entry = .object fields
    ∧ ((∃ negative, Fields.get fields "audienceCount" = .real (.infinite negative))
      ∨ (∃ c ∈ (Fields.get fields "criteria").items, Criterion.Unreadable c)
      ∨ (Fields.get fields "sampleTags").LacksItems)

theorem exists_ofValue_ok_iff {entry : Value} :
    (∃ s, ofValue entry = .ok s) ↔ ¬ Unreadable entry := by
  refine Value.exists_ok_iff_of_object (fun fields => ?_) fun v hv => ?_
  · have hmembers : (∃ s, ofValue (.object fields) = .ok s) ↔
        (∃ n, (Fields.get fields "audienceCount").toCount = .ok n)
          ∧ (∃ criteria, Attempt.each Criterion.ofValue (Fields.get fields "criteria").items
            = .ok criteria)
          ∧ ∃ tags, (Fields.get fields "sampleTags").elementsOrNone = .ok tags := by
      simp only [ofValue, Attempt.exists_bind_ok_iff, Attempt.pure_eq_ok, Except.ok.injEq,
        exists_eq', and_true, exists_and_right]
    have hcriteria : (∃ criteria, Attempt.each Criterion.ofValue
        (Fields.get fields "criteria").items = .ok criteria) ↔
        ¬ ∃ c ∈ (Fields.get fields "criteria").items, Criterion.Unreadable c := by
      rw [Attempt.exists_each_ok_iff]
      simp only [Criterion.exists_ofValue_ok_iff, not_exists, not_and]
    rw [hmembers, Value.exists_toCount_ok_iff, hcriteria, Value.exists_elementsOrNone_ok_iff,
      ← not_or, ← not_or]
  · cases v with
    | object fields => cases hv
    | _ => exact ⟨_, rfl⟩

end Segment

namespace Catalog

/-! ## The built-in segments -/

theorem memberText_of_get {fields : Fields} {key t : Text} (h : fields.get key = .text t) :
    Criterion.memberText fields key = t := by
  simp only [Criterion.memberText, h, Value.isTruthy]
  cases t <;> rfl

/-- A built-in segment can be read if its one criterion can. -/
theorem savedSegment_readable {id name description cid field operator label : String}
    {value : Value} {tags : List String} (h : ¬ Rule.Unreadable (Text.ofString field) value) :
    ¬ Segment.Unreadable
      (savedSegment id name description (savedCriterion cid field operator value label) tags) := by
  rintro ⟨fields, heq, hbad⟩
  cases heq
  rcases hbad with ⟨negative, hcount⟩ | ⟨c, hc, hcriterion⟩ | ⟨-, hshape⟩
  · cases hcount
  · obtain rfl := List.mem_singleton.1 hc
    obtain ⟨_, heq, hrule⟩ := hcriterion
    cases heq
    rw [memberText_of_get rfl] at hrule
    exact h hrule
  · rcases hshape with hshape | hshape | hshape <;> cases hshape

theorem exists_builtIn_ok_iff {clock : Instant} :
    (∃ saved, builtIn clock = .ok saved) ↔ 365 * microsPerDay ≤ clock.micros := by
  have hdays : ∀ days, (∃ date, clock.daysBefore days = .ok date) ↔
      days * microsPerDay ≤ clock.micros := by
    intro days
    rw [Attempt.exists_ok_iff]
    simp only [ne_eq, Instant.daysBefore_eq_error_iff, not_and]
    exact ⟨fun h => Nat.not_lt.1 fun hlt => h _ hlt rfl, fun h _ hlt => absurd h (Nat.not_le.2 hlt)⟩
  have hboth : (∃ saved, builtIn clock = .ok saved) ↔
      (∃ date, clock.daysBefore 180 = .ok date) ∧ ∃ date, clock.daysBefore 365 = .ok date := by
    simp only [builtIn, Attempt.exists_bind_ok_iff, Attempt.pure_eq_ok, Except.ok.injEq,
      exists_eq', and_true, exists_and_right]
  rw [hboth, hdays, hdays]
  unfold microsPerDay
  omega

/-- All built-in segments can be read. -/
theorem builtIn_readable {clock : Instant} {saved : List Value} (h : builtIn clock = .ok saved) :
    ∀ entry ∈ saved, ¬ Segment.Unreadable entry := by
  obtain ⟨halfYearAgo, -, h⟩ := Attempt.bind_eq_ok_iff.1 h
  obtain ⟨yearAgo, -, h⟩ := Attempt.bind_eq_ok_iff.1 h
  cases h
  have hworth : ¬ Rule.Unreadable "lifetimeValue" (.int 5000) := by
    rintro (⟨-, hamount | ⟨_, heq, -⟩⟩ | ⟨hword, -⟩)
    · exact absurd hamount (by decide +kernel)
    · cases heq
    · exact absurd hword (by decide)
  have hother : ∀ {word : Text} (value : Value),
      word ≠ Text.ofString "lifetimeValue" ∧ word ≠ Text.ofString "lastInteraction" →
      ¬ Rule.Unreadable word value :=
    fun value hword => not_or.2 ⟨fun h => hword.1 h.1, fun h => hword.2 h.1⟩
  simp only [List.forall_mem_cons]
  exact ⟨savedSegment_readable hworth, savedSegment_readable (hother _ (by decide)),
    savedSegment_readable (hother _ (by decide)), savedSegment_readable (hother _ (by decide)),
    savedSegment_readable (hother _ (by decide)), List.forall_mem_nil _⟩

/-! ## The stages of loading -/

/-- The entries from which segments are made. -/
def objects (entries : List Value) : List Value := entries.filter fun v => v.fields?.isSome

/-- A file's text and a time from which a catalog can be loaded. -/
structure IsLoadable (t : Text) (clock : Instant) : Prop where
  /-- No numeral that is too long stands before a fault of the text. -/
  numerals : ∀ digits, Json.read t ≠ .error (.numeralTooLong digits)
  /-- A segment can be made from every object in the list. -/
  entries : ∀ v entries, Json.read t = .ok v → listed? v = some entries →
    ∀ entry ∈ objects entries, ¬ Segment.Unreadable entry
  /-- Without a list, a year has passed since the beginning of the calendar. -/
  clock : (∀ v, Json.read t = .ok v → listed? v = none) →
    365 * microsPerDay ≤ clock.micros

variable {octets : List Nat} {t : Text} {clock : Instant}

theorem load_eq_ok_iff {file : Option (List Nat)} {segments : List Segment} :
    load file clock = .ok segments ↔
      ∃ saved, entries file clock = .ok saved
        ∧ Attempt.each Segment.ofValue (objects saved) = .ok segments := by
  rw [load, Attempt.bind_eq_ok_iff]
  rfl

/-- Whether a catalog can be loaded is asked of its entries and of each object
among them. -/
theorem exists_load_ok_iff {file : Option (List Nat)} :
    (∃ segments, load file clock = .ok segments) ↔
      ∃ saved, entries file clock = .ok saved
        ∧ ∀ entry ∈ objects saved, ¬ Segment.Unreadable entry := by
  simp only [load_eq_ok_iff, ← Segment.exists_ofValue_ok_iff, ← Attempt.exists_each_ok_iff]
  exact ⟨fun ⟨segments, saved, hsaved, h⟩ => ⟨saved, hsaved, segments, h⟩,
    fun ⟨saved, hsaved, segments, h⟩ => ⟨segments, saved, hsaved, h⟩⟩

theorem exists_builtIn_readable_iff :
    (∃ saved, builtIn clock = .ok saved ∧ ∀ entry ∈ objects saved, ¬ Segment.Unreadable entry) ↔
      365 * microsPerDay ≤ clock.micros := by
  rw [← exists_builtIn_ok_iff]
  refine exists_congr fun saved => and_iff_left_of_imp fun h entry hentry => ?_
  exact builtIn_readable h entry (List.mem_filter.1 hentry).1

theorem entries_of_tooLong (h : Utf8.decode octets = some t) {digits : Nat}
    (hread : Json.read t = .error (.numeralTooLong digits)) :
    entries (some octets) clock = .error (.numeralTooLong digits) := by
  simp only [entries, decode, h, hread]
  rfl

theorem entries_of_malformed (h : Utf8.decode octets = some t)
    (hread : Json.read t = .error .malformed) :
    entries (some octets) clock = builtIn clock := by
  simp only [entries, decode, h, hread]
  rfl

theorem entries_of_unlisted (h : Utf8.decode octets = some t) {v : Value}
    (hread : Json.read t = .ok v) (hlist : listed? v = none) :
    entries (some octets) clock = builtIn clock := by
  have hdecode : decode octets = .ok (some v) := by simp only [decode, h, hread]
  simp only [entries, hdecode, Option.bind_some, hlist, bind, Except.bind]

theorem entries_of_listed (h : Utf8.decode octets = some t) {v : Value}
    (hread : Json.read t = .ok v) {saved : List Value} (hlist : listed? v = some saved) :
    entries (some octets) clock = .ok saved := by
  have hdecode : decode octets = .ok (some v) := by simp only [decode, h, hread]
  simp only [entries, hdecode, Option.bind_some, hlist, bind, Except.bind]
  rfl

/-- A catalog is loaded from a file exactly if its text and the time allow
it. -/
theorem exists_load_file_iff (h : Utf8.decode octets = some t) :
    (∃ segments, load (some octets) clock = .ok segments) ↔ IsLoadable t clock := by
  rw [exists_load_ok_iff]
  cases hread : Json.read t with
  | error trouble =>
      have hnever : ∀ v, Json.read t ≠ .ok v := by
        rw [hread]
        exact fun _ heq => nomatch heq
      cases trouble with
      | numeralTooLong digits =>
          rw [entries_of_tooLong h hread]
          exact iff_of_false (fun ⟨_, heq, _⟩ => nomatch heq) fun hload => hload.numerals _ hread
      | malformed =>
          rw [entries_of_malformed h hread, exists_builtIn_readable_iff]
          constructor
          · intro hclock
            refine ⟨fun digits => ?_, fun v _ hv => absurd hv (hnever v), fun _ => hclock⟩
            rw [hread]
            exact fun heq => nomatch heq
          · exact fun hload => hload.clock fun v hv => absurd hv (hnever v)
  | ok v =>
      have hnumerals : ∀ digits, Json.read t ≠ .error (.numeralTooLong digits) := by
        rw [hread]
        exact fun _ heq => nomatch heq
      have hvalue : ∀ v', Json.read t = .ok v' → v' = v := by
        rw [hread]
        exact fun v' heq => (Except.ok.inj heq).symm
      cases hlist : listed? v with
      | none =>
          rw [entries_of_unlisted h hread hlist, exists_builtIn_readable_iff]
          constructor
          · intro hclock
            refine ⟨hnumerals, fun v' saved hv hsaved => ?_, fun _ => hclock⟩
            rw [hvalue v' hv, hlist] at hsaved
            cases hsaved
          · exact fun hload => hload.clock fun v' hv => hvalue v' hv ▸ hlist
      | some saved =>
          rw [entries_of_listed h hread hlist]
          constructor
          · rintro ⟨_, heq, hentries⟩
            cases heq
            refine ⟨hnumerals, fun v' saved' hv hsaved => ?_, fun hnone => ?_⟩
            · rw [hvalue v' hv, hlist] at hsaved
              cases hsaved
              exact hentries
            · rw [hnone v hread] at hlist
              cases hlist
          · exact fun hload => ⟨saved, rfl, hload.entries v saved hread hlist⟩

/-- **Loading.** A catalog is loaded from a file of text exactly if no numeral
is too long and a segment can be made from every object of its list, or a year
of the calendar has passed if there is no list; and then the segments are those
of the objects, one for each and in their order. -/
theorem load_file_iff (h : Utf8.decode octets = some t) (clock : Instant) :
    ((∃ segments, load (some octets) clock = .ok segments) ↔ IsLoadable t clock)
    ∧ ∀ v saved segments, Json.read t = .ok v → listed? v = some saved →
        load (some octets) clock = .ok segments →
        (objects saved).map Segment.ofValue = segments.map .ok := by
  refine ⟨exists_load_file_iff h, fun v saved segments hread hlist hload => ?_⟩
  obtain ⟨_, hentries, hsegments⟩ := load_eq_ok_iff.1 hload
  rw [entries_of_listed h hread hlist] at hentries
  cases hentries
  exact Attempt.each_eq_ok_iff.1 hsegments

/-- A file with two segments of odd shape and something that is none. -/
def oddFile : Text :=
  "\x7b\"data\":[\x7b\"id\":true,\"audienceCount\":\"\"\x7d,null,\x7b\"criteria\":\"all\"\x7d]\x7d"

def oddEntries : List Value :=
  [.object [("id", .bool true), ("audienceCount", .text [])], .null,
    .object [("criteria", .text "all")]]

theorem oddFile_loaded :
    Json.read oddFile = .ok (.object [("data", .list oddEntries)])
      ∧ IsLoadable oddFile ⟨0, by decide⟩
      ∧ ∃ segments, load (some (Utf8.encode oddFile)) ⟨0, by decide⟩ = .ok segments
        ∧ (objects oddEntries).map Segment.ofValue = segments.map .ok := by
  have hread : Json.read oddFile = .ok (.object [("data", .list oddEntries)]) := by cbv
  have hdecode : Utf8.decode (Utf8.encode oddFile) = some oddFile := by decide +kernel
  obtain ⟨hload, hone⟩ := load_file_iff hdecode ⟨0, by decide⟩
  obtain ⟨segments, hsegments⟩ := Attempt.failure?_eq_none_iff.1
    (show (load (some (Utf8.encode oddFile)) ⟨0, by decide⟩).failure? = none by decide +kernel)
  exact ⟨hread, hload.1 ⟨segments, hsegments⟩, segments, hsegments,
    hone _ _ _ hread rfl hsegments⟩

/-- A file whose first segment claims to reach infinitely many records. -/
def boundlessFile : Text :=
  "[\x7b\"id\": \"vip\", \"audienceCount\": Infinity\x7d, \x7b\"id\": \"all\"\x7d]"

def boundlessEntries : List Value :=
  [.object [("id", .text "vip"), ("audienceCount", .real (.infinite false))],
    .object [("id", .text "all")]]

/-- It is text with a list, and its second segment alone can be read, but it is
never loaded. -/
theorem boundlessFile_not_loaded :
    Utf8.decode (Utf8.encode boundlessFile) = some boundlessFile
      ∧ Json.read boundlessFile = .ok (.list boundlessEntries)
      ∧ (∃ s, Segment.ofValue (.object [("id", .text "all")]) = .ok s)
      ∧ ∀ clock, load (some (Utf8.encode boundlessFile)) clock = .error .infiniteCount := by
  have hread : Json.read boundlessFile = .ok (.list boundlessEntries) := by cbv
  have hdecode : Utf8.decode (Utf8.encode boundlessFile) = some boundlessFile := by
    decide +kernel
  refine ⟨hdecode, hread, ⟨_, rfl⟩, fun clock => ?_⟩
  rw [load, entries_of_listed hdecode hread rfl]
  rfl

end Catalog

end Audience
