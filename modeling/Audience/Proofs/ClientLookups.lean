import Audience.Proofs.Previews

/-!
# Looking clients up

A lead or a quote that carries no client of its own belongs to the client with
its `clientId`. Ids are compared by their texts: a number and its digits name
the same client. The clients are gone through once and put under their id
texts, a later one in the place of an earlier one (`ClientIndex.get?_add` is
one step), so that a lookup finds what a search of the list from its end would
find (`ClientIndex.find_ofList`).

Where no two clients have the same id text there is at most one to be found
and their order does not matter (`last?_of_perm`). The index is read nowhere
but in a lookup, so two lists with the same lookups serve every pass over
records equally well (`ServeAlike.of_find_eq`).
-/

namespace Audience

namespace ClientIndex

variable {kind clients others : Value} {index other : ClientIndex}

/-! ## What a lookup finds -/

/-- The text under which a client is known. Anything but an object with an id
is known under none. -/
def idText? : Value → Option Text
  | .object fields =>
    let id := Fields.get fields "id"
    if id.isNull then none else some id.describe
  | _ => none

/-- The last of some clients that is known under an id text. -/
def last? (clients : List Value) (id : Text) : Option Value :=
  (clients.filter fun client => idText? client = some id).getLast?

/-- One client replaces what was under its id text and leaves the rest. -/
theorem get?_add (index : ClientIndex) (client : Value) (id : Text) :
    Fields.get? (add index client) id
      = if idText? client = some id then some client else Fields.get? index id := by
  cases client with
  | object fields =>
      rw [add, idText?]
      by_cases hnull : (Fields.get fields "id").isNull = true
      · simp [hnull]
      · by_cases hid : (Fields.get fields "id").describe = id
        · simp [hnull, hid, Fields.get?_put_self]
        · simp [hnull, hid, Fields.get?_put_of_ne hid]
  | _ => rfl

theorem last?_cons (client : Value) (clients : List Value) (id : Text) :
    last? (client :: clients) id
      = (last? clients id).or (if idText? client = some id then some client else none) := by
  unfold last?
  by_cases hid : idText? client = some id
  · rw [List.filter_cons_of_pos (by simpa using hid), List.getLast?_cons, if_pos hid]
    cases (clients.filter fun client => idText? client = some id).getLast? <;> rfl
  · rw [List.filter_cons_of_neg (by simpa using hid), if_neg hid, Option.or_none]

/-- Induction on the clients still to come, for every index there may be so
far. -/
theorem get?_foldl_add (clients : List Value) (index : ClientIndex) (id : Text) :
    Fields.get? (clients.foldl add index) id = (last? clients id).or (Fields.get? index id) := by
  induction clients generalizing index with
  | nil => rfl
  | cons client rest ih =>
      rw [List.foldl_cons, ih, get?_add, last?_cons, Option.or_assoc]
      split <;> rfl

/-- A lookup goes by the text of an id and finds the last client known under
it. -/
theorem find_ofList {id : Value} (hid : id.isNull = false) (clients : List Value) :
    find (ofList clients) id = ((last? clients id.describe).getD .null).fields := by
  have hget : Fields.get? (ofList clients) id.describe = last? clients id.describe := by
    rw [ofList, get?_foldl_add]
    exact Option.or_none
  rw [find, hid, if_neg Bool.false_ne_true, Fields.get, hget]

theorem find_null {id : Value} (hid : id.isNull = true) (index : ClientIndex) :
    find index id = [] := by
  rw [find, if_pos hid]

/-! ## The order of the clients -/

/-- Where the id texts are distinct, at most one client is known under one of
them. -/
theorem length_filter_le_one {clients : List Value} (h : (clients.filterMap idText?).Nodup)
    (id : Text) : (clients.filter fun client => idText? client = some id).length ≤ 1 := by
  have hcount := List.nodup_iff_count.1 h id
  rw [List.count_filterMap, List.countP_eq_length_filter] at hcount
  simpa only [Bool.beq_eq_decide_eq] using hcount

theorem last?_of_perm {clients others : List Value} (h : (clients.filterMap idText?).Nodup)
    (hperm : clients.Perm others) (id : Text) : last? clients id = last? others id := by
  have hone := length_filter_le_one h id
  have hsame := hperm.filter fun client => idText? client = some id
  unfold last?
  revert hone hsame
  generalize (clients.filter fun client => idText? client = some id) = found
  intro hone hsame
  match found with
  | [] => rw [hsame.nil_eq]
  | [client] => rw [List.singleton_perm.1 hsame]
  | _ :: _ :: _ => simp at hone

theorem find_of_perm {clients others : List Value} (h : (clients.filterMap idText?).Nodup)
    (hperm : clients.Perm others) (id : Value) :
    find (ofList clients) id = find (ofList others) id := by
  cases hid : id.isNull with
  | true => rw [find_null hid, find_null hid]
  | false => rw [find_ofList hid, find_ofList hid, last?_of_perm h hperm]

/-! ## What is made of the lookups -/

/-- Two lists of clients that no filter and no preview of records of a kind
tells apart: the same records, numbers and tags, and the same failures. -/
structure ServeAlike (kind clients others : Value) : Prop where
  filter : ∀ (controls : Controls) (records : Value),
    controls.filter kind records clients = controls.filter kind records others
  preview : ∀ (segment : Selection) (records : Value) (size : Option Int),
    Preview.of segment records kind clients size = Preview.of segment records kind others size

/-- The clients come into a pass through the contexts that are made with
them. -/
theorem ServeAlike.of_ofRecord_eq (hindex : ofValue clients = .ok index)
    (hother : ofValue others = .ok other)
    (h : ∀ known, Kind.ofValue kind = .ok known →
      ∀ record, Context.ofRecord known index record = Context.ofRecord known other record) :
    ServeAlike kind clients others where
  filter := fun controls records => by
    rw [Controls.filter, Controls.filter, hindex, hother]
    cases hkind : Kind.ofValue kind with
    | error failure => rfl
    | ok known =>
        cases known with
        | none => rfl
        | some kind => simp only [bind, Except.bind, h _ hkind]
  preview := fun segment records size => by
    rw [Preview.of, Preview.of, hindex, hother]
    cases hkind : Kind.ofValue kind with
    | error failure => rfl
    | ok known => simp only [bind, Except.bind, Except.map, h _ hkind]

theorem ServeAlike.of_find_eq (hindex : ofValue clients = .ok index)
    (hother : ofValue others = .ok other) (h : ∀ id, find index id = find other id)
    (kind : Value) : ServeAlike kind clients others := by
  refine .of_ofRecord_eq hindex hother fun known _ record => ?_
  cases known with
  | none => rfl
  | some kind =>
      cases kind <;>
        simp only [Context.ofRecord, Projection.lead, Projection.quote, Projection.clientType, h]

/-- The context of a client is made without the index. -/
theorem ServeAlike.client (hindex : ofValue clients = .ok index)
    (hother : ofValue others = .ok other) : ServeAlike (.text Kind.client.name) clients others := by
  refine .of_ofRecord_eq hindex hother fun known hknown record => ?_
  rw [Kind.ofValue_of_named (Kind.named?_eq_some_iff.2 rfl)] at hknown
  cases hknown
  rfl

end ClientIndex

theorem Projection.clientType_of_carried {record : Fields} (h : (record.get "client").fields ≠ [])
    (index : ClientIndex) :
    clientType record index = (record.get "client").fields.get "clientType" := by
  rw [clientType, List.isEmpty_eq_false_iff.2 h, if_neg Bool.false_ne_true]

theorem Projection.clientType_of_looked_up {record : Fields}
    (h : (record.get "client").fields = []) (index : ClientIndex) :
    clientType record index = (index.find (record.get "clientId")).get "clientType" := by
  rw [clientType, h, List.isEmpty_nil, if_pos rfl]

theorem Context.clientType_ofRecord {kind : Kind} (h : kind ≠ .client) (index : ClientIndex)
    (record : Fields) :
    (Context.ofRecord (some kind) index (.object record)).clientType
      = Projection.clientType record index := by
  cases kind with
  | client => exact absurd rfl h
  | lead => rfl
  | quote => rfl

namespace ClientIndex

/-- **The last client with an id text decides.** A lead or a quote that carries
a client with members has that client's type, whatever the other clients are.
One that carries none has the type of the last client whose id has the text of
its own, and no type if there is no such client. So clients with distinct id
texts can be put into any order, and the clients make no difference to a pass
over clients. -/
theorem last_client_decides (clients : List Value) :
    (∀ kind : Kind, kind ≠ .client → ∀ record : Fields,
        let shown := (Context.ofRecord (some kind) (ofList clients) (.object record)).clientType
        ((record.get "client").fields ≠ [] →
            shown = (record.get "client").fields.get "clientType")
          ∧ ((record.get "client").fields = [] → (record.get "clientId").isNull = false →
            shown = ((last? clients (record.get "clientId").describe).map
              fun client => client.fields.get "clientType").getD .null))
      ∧ (∀ others, (clients.filterMap idText?).Nodup → clients.Perm others →
          ∀ kind, ServeAlike kind (.list clients) (.list others))
      ∧ ∀ others : Value, others.IsListOrNull →
          ServeAlike (.text Kind.client.name) (.list clients) others := by
  have hclients := ofValue_eq (Value.isListOrNull_list clients)
  refine ⟨fun kind hkind record => ⟨fun hcarried => ?_, fun hnone hid => ?_⟩,
    fun others hnodup hperm => ?_, fun others hothers => ?_⟩
  · rw [Context.clientType_ofRecord hkind, Projection.clientType_of_carried hcarried]
  · rw [Context.clientType_ofRecord hkind, Projection.clientType_of_looked_up hnone,
      find_ofList hid]
    cases last? clients (record.get "clientId").describe <;> rfl
  · exact .of_find_eq hclients (ofValue_eq (Value.isListOrNull_list others))
      (find_of_perm hnodup hperm)
  · exact .client hclients (ofValue_eq hothers)

/-- A client of one kind, known by a number. -/
def office : Value := .object [("id", .int 7), ("clientType", .text "commercial")]

/-- A client of another kind, known by a digit. -/
def household : Value := .object [("id", .text "7"), ("clientType", .text "residential")]

def neighbour : Value := .object [("id", .text "8"), ("clientType", .text "residential")]

/-- Two clients with one id text between them, and two entries without any. -/
def sevens : List Value := [office, .text "7", household, .object [("id", .null)]]

/-- A lead of the client with the number 7 that carries some members of it. -/
def leadOfSeven (carried : Fields) : Fields := [("client", .object carried), ("clientId", .int 7)]

/-- The later of two clients is found by the number of the earlier; a lead that
carries its client does not look; and beside a client with another number,
either of the two may come first. -/
theorem last_client_decides_sevens :
    (Context.ofRecord (some .lead) (ofList sevens) (.object (leadOfSeven []))).clientType
        = .text "residential"
      ∧ (Context.ofRecord (some .lead) (ofList sevens)
          (.object (leadOfSeven [("clientType", .text "municipal")]))).clientType
        = .text "municipal"
      ∧ ServeAlike (.text "quote") (.list [office, neighbour]) (.list [neighbour, office])
      ∧ ServeAlike (.text "client") (.list sevens) .null := by
  have hkind : Kind.lead ≠ .client := by decide
  obtain ⟨hlead, -, hclient⟩ := last_client_decides sevens
  have hdistinct : ([office, neighbour].filterMap idText?).Nodup := by decide
  refine ⟨((hlead .lead hkind (leadOfSeven [])).2 rfl rfl).trans rfl,
    (hlead .lead hkind (leadOfSeven _)).1 (List.cons_ne_nil _ _), ?_, hclient .null (.inl rfl)⟩
  exact (last_client_decides [office, neighbour]).2.1 _ hdistinct (.swap _ _ []) _

end ClientIndex

end Audience
