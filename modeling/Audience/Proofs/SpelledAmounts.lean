import Audience.Proofs.Interchange
import Audience.Proofs.Intervals
import Audience.Proofs.Numerals
import Audience.Proofs.Partition

/-!
# Amounts that are spelled out

Whether an amount is saved as an integer or as a text is a matter of the form it
was entered in, so no answer may depend on it. `Value.SameAmount` says that two
values are the same, or an integer and its text. Three things are asked of an
amount: the double that it stands for, whether it is null, and what stands in
for it if it does not count as given. The last is where the two differ, since
zero does not count as given and its text does; but what stands in for zero is
zero (`Value.SameAmount.orElse_zero`).

From there the relation is carried through everything that reads amounts: the
limits of a criterion (`Criterion.Respelled.ofValue_eq`), the lifetime value of a
context (`Rule.holds_of_respelled`), the estimate of a lead, and the loop that
builds the board. In the loop it becomes a relation between boards
(`Board.SameLane`), which every lead keeps (`Board.place_alike`).
-/

namespace Audience

/-! ## Spelling an amount in another way -/

/-- Two values are the same, or an integer and its text. -/
inductive Value.SameAmount : Value → Value → Prop where
  | refl (v : Value) : SameAmount v v
  | spelled (w : Numeral.Written) : SameAmount (.int w.value) (.text w.text)

namespace Value.SameAmount

variable {v v' : Value}

theorem toAmount_eq (h : v.SameAmount v') : v.toAmount = v'.toAmount := by
  cases h with
  | refl => rfl
  | spelled w => rw [w.toAmount_int, w.toAmount_text]

theorem bound_eq (h : v.SameAmount v') (default : Binary64) :
    Rule.bound v default = Rule.bound v' default := by
  have hnull : v.isNull = v'.isNull := by cases h <;> rfl
  rw [Rule.bound, hnull, h.toAmount_eq, Rule.bound]

/-- An integer that does not count as given is zero, and zero stands in for it. -/
theorem orElse_zero (h : v.SameAmount v') :
    (v.orElse (.int 0)).SameAmount (v'.orElse (.int 0)) := by
  cases h with
  | refl => exact .refl _
  | spelled w =>
      have htext : (Value.text w.text).orElse (.int 0) = .text w.text :=
        if_pos (by rw [isTruthy, List.isEmpty_eq_false_iff.2 w.text_ne_nil]; rfl)
      -- Zero is replaced by itself, and any other integer counts as given.
      have hint : (Value.int w.value).orElse (.int 0) = .int w.value := by
        by_cases hzero : w.value = 0
        · rw [hzero]
          rfl
        · exact if_pos (bne_iff_ne.2 hzero)
      rw [htext, hint]
      exact .spelled w

end Value.SameAmount

/-- Members that differ in nothing but how the amounts under some keys are
spelled. -/
structure Fields.Respelled (keys : List Text) (fields fields' : Fields) : Prop where
  amounts : ∀ key ∈ keys, (fields.get key).SameAmount (fields'.get key)
  rest : SameBut keys fields fields'

/-- Spelling one of the amounts anew. -/
theorem Fields.respelled_put (fields : Fields) {keys : List Text} {key : Text} (hkey : key ∈ keys)
    {v v' : Value} (h : v.SameAmount v') :
    Respelled keys (fields.put key v) (fields.put key v') where
  amounts other _ := get_put_related .refl fields key h other
  rest := sameBut_put_put hkey fields v v'

/-- Two values are the same, or objects whose members are respelled. -/
inductive Value.Respelled (keys : List Text) : Value → Value → Prop where
  | refl (v : Value) : Respelled keys v v
  | object {fields fields' : Fields} (h : Fields.Respelled keys fields fields') :
      Respelled keys (.object fields) (.object fields')

/-- Two values are the same, or lists whose items are respelled. -/
inductive Value.RespelledItems (keys : List Text) : Value → Value → Prop where
  | refl (v : Value) : RespelledItems keys v v
  | list {items items' : List Value} (h : List.Forall₂ (Respelled keys) items items') :
      RespelledItems keys (.list items) (.list items')

theorem Value.Respelled.fields_respelled {keys : List Text} {v v' : Value}
    (h : v.Respelled keys v') : v.fields.Respelled keys v'.fields := by
  cases h with
  | refl => exact ⟨fun _ _ => .refl _, fun _ _ => rfl⟩
  | object h => exact h

theorem Value.RespelledItems.elements_alike {keys : List Text} {v v' : Value}
    (h : v.RespelledItems keys v') :
    Attempt.Alike (List.Forall₂ (Respelled keys)) v.elementsOrNone v'.elementsOrNone := by
  cases h with
  | refl => exact .of_eq rfl fun items => List.forall₂_same.2 fun item _ => .refl item
  | @list items items' h =>
      rw [elementsOrNone_eq (isListOrNull_list items), elementsOrNone_eq (isListOrNull_list items')]
      exact .ended h

/-! ## Criteria -/

/-- Two values of criteria that are the same amount, or whose two limits are. -/
inductive Value.SameLimits : Value → Value → Prop where
  | amount {v v' : Value} (h : v.SameAmount v') : SameLimits v v'
  | limits {fields fields' : Fields} (h : Fields.Respelled ["min", "max"] fields fields') :
      SameLimits (.object fields) (.object fields')

theorem Rule.ofLifetime_of_sameLimits {v v' : Value} (h : v.SameLimits v') :
    ofLifetime v = ofLifetime v' := by
  cases h with
  | limits h =>
      have hmin := (h.amounts _ List.mem_cons_self).bound_eq (.infinite true)
      have hmax := (h.amounts (Text.ofString "max") (by decide)).bound_eq (.infinite false)
      rw [ofLifetime, ofLifetime, hmin, hmax]
  | amount h =>
      cases h with
      | refl => rfl
      | spelled w =>
          rw [Interval.ofLifetime_of_flat rfl, Interval.ofLifetime_of_flat rfl,
            (Value.SameAmount.spelled w).toAmount_eq]

namespace Criterion

/-- The same criterion, or one about the lifetime value with its limits
respelled. -/
inductive Respelled : Value → Value → Prop where
  | refl (v : Value) : Respelled v v
  | object {fields fields' : Fields}
      (hfield : memberText fields "field" = Text.ofString "lifetimeValue")
      (hvalue : (fields.get "value").SameLimits (fields'.get "value"))
      (hrest : Fields.SameBut ["value"] fields fields') :
      Respelled (.object fields) (.object fields')

theorem Respelled.ofValue_eq {v v' : Value} (h : Respelled v v') : ofValue v = ofValue v' := by
  cases h with
  | refl => rfl
  | object hfield hvalue hrest =>
      refine ofValue_congr hrest ?_
      rw [hfield]
      exact Rule.ofLifetime_of_sameLimits hvalue

end Criterion

/-! ## Records and contexts -/

/-- Contexts that differ in nothing but how the lifetime value is spelled. -/
structure Context.Respelled (ctx ctx' : Context) : Prop where
  worth : ctx.lifetimeValue.SameAmount ctx'.lifetimeValue
  rest : ∀ a, a ≠ .lifetimeValue → ctx.get a = ctx'.get a

theorem Rule.holds_of_respelled {ctx ctx' : Context} (h : ctx.Respelled ctx') (rule : Rule) :
    rule.holds ctx = rule.holds ctx' := by
  have hlast : ctx.lastInteraction = ctx'.lastInteraction := h.rest .lastInteraction (by decide)
  exact rule.holds_congr (h.worth.bound_eq _) (by rw [hlast]) fun a hworth _ => h.rest a hworth

theorem Context.respelled_ofFields {fields fields' : Fields}
    (h : Fields.Respelled ["lifetime_value"] fields fields') :
    (ofFields fields).Respelled (ofFields fields') where
  worth := h.amounts _ List.mem_cons_self
  rest := by
    intro a ha
    have hkey : a.key ∉ [Text.ofString "lifetime_value"] := by
      cases a with
      | lifetimeValue => exact absurd rfl ha
      | _ => decide
    rw [get_ofFields, get_ofFields, h.rest _ hkey]

theorem Context.respelled_ofRecord {record record' : Value}
    (h : record.Respelled Request.amountKeys record') (kind : Option Kind) (index : ClientIndex) :
    (ofRecord kind index record).Respelled (ofRecord kind index record') := by
  cases h with
  | refl => exact ⟨.refl _, fun _ _ => rfl⟩
  | @object fields fields' h =>
      cases kind with
      | none => exact ⟨.refl _, fun _ _ => rfl⟩
      | some kind =>
          have hlast : fields.get "updatedAt" = fields'.get "updatedAt" := h.rest _ (by decide)
          rw [ofRecord_of_sameBut (h.rest.mono (List.subset_cons_self _ _))]
          constructor
          · rw [lifetimeValue_ofRecord]
            exact (h.amounts _ (Request.worthKey_mem_amountKeys kind)).orElse_zero
          · intro a ha
            cases a with
            | lifetimeValue => exact absurd rfl ha
            | lastInteraction =>
                rw [hlast]
                exact (lastInteraction_ofRecord kind index (.object fields')).symm
            | _ => rfl

/-- The object that a record is projected to is read as the record's context. -/
theorem Context.ofFields_toFields (kind : Option Kind) (index : ClientIndex) (record : Value) :
    ofFields ((ofRecord kind index record).toFields (Kind.attributes kind))
      = ofRecord kind index record := by
  cases kind with
  | none => rfl
  | some kind => rfl

theorem Rule.holdsFor_of_respelled {ctx ctx' : Value} (h : ctx.Respelled ["lifetime_value"] ctx')
    (rule : Rule) : rule.holdsFor ctx = rule.holdsFor ctx' := by
  cases h with
  | refl => rfl
  | object h =>
      rw [holdsFor_object, holdsFor_object]
      exact rule.holds_of_respelled (Context.respelled_ofFields h)

theorem Rule.holdsFor_record_of_respelled {record record' : Value}
    (h : record.Respelled Request.amountKeys record') (kind : Option Kind) (index : ClientIndex)
    (rule : Rule) :
    rule.holdsFor (.object ((Context.ofRecord kind index record).toFields (Kind.attributes kind)))
      = rule.holdsFor
          (.object ((Context.ofRecord kind index record').toFields (Kind.attributes kind))) := by
  rw [holdsFor_object, holdsFor_object, Context.ofFields_toFields, Context.ofFields_toFields]
  exact rule.holds_of_respelled (Context.respelled_ofRecord h kind index)

theorem Criterion.Respelled.holdsFor_eq {criterion criterion' v v' : Value}
    (h : Respelled criterion criterion')
    (hrule : ∀ rule : Rule, rule.holdsFor v = rule.holdsFor v') :
    holdsFor criterion v = holdsFor criterion' v' := by
  rw [holdsFor, h.ofValue_eq, holdsFor]
  exact bind_congr fun c => hrule c.rule

/-! ## Leads -/

theorem LeadQueue.isHighValue_of_respelled {lead lead' : Fields}
    (h : lead.Respelled Request.amountKeys lead') : isHighValue lead = isHighValue lead' := by
  have hestimate := (h.amounts (Text.ofString "estimatedValue") (by decide)).orElse_zero
  rw [isHighValue, hestimate.toAmount_eq, isHighValue]

namespace Board

variable {lead lead' leads leads' quotes quotes' : Value} {ids : List Text}

theorem amount_of_respelled (h : lead.Respelled Request.amountKeys lead') :
    amount lead = amount lead' := by
  have hestimate := h.fields_respelled.amounts (Text.ofString "estimatedValue") (by decide)
  rw [amount, hestimate.orElse_zero.toAmount_eq, amount]

theorem isIn_of_respelled (h : lead.Respelled Request.amountKeys lead') (status : Text) :
    isIn status lead = isIn status lead' := by
  rw [isIn, h.fields_respelled.rest _ (by decide), isIn]

theorem isConverted_of_respelled (h : lead.Respelled Request.amountKeys lead') :
    isConverted ids lead = isConverted ids lead' := by
  rw [isConverted, h.fields_respelled.rest _ (by decide), isConverted]

theorem convertedId?_of_respelled {quote quote' : Value}
    (h : quote.Respelled Request.amountKeys quote') :
    convertedId? quote = convertedId? quote' := by
  cases h with
  | refl => rfl
  | object h =>
      have hid := h.rest (Text.ofString "leadId") (by decide)
      have hstatus := h.rest (Text.ofString "status") (by decide)
      rw [convertedId?, convertedId?, hid, hstatus]

theorem convertedIds_of_respelled (h : quotes.RespelledItems Request.amountKeys quotes') :
    convertedIds quotes = convertedIds quotes' := by
  refine Attempt.Alike.eq (h.elements_alike.bind fun qs qs' hsame => ?_)
  have hids := Attempt.Alike.each hsame fun _ _ h =>
    Attempt.Alike.of_eq (convertedId?_of_respelled h) fun _ => rfl
  refine hids.bind fun ids ids' heq => ?_
  rw [List.forall₂_eq_eq_eq] at heq
  rw [heq]
  exact .refl _

/-! ## Boards -/

/-- Lanes that differ in nothing but how the amounts of their leads are
spelled. -/
structure SameLane (l l' : Lane) : Prop where
  status : l.status = l'.status
  leads : List.Forall₂ (Value.Respelled Request.amountKeys) l.leads l'.leads
  convertedCount : l.convertedCount = l'.convertedCount
  conversionRate : l.conversionRate = l'.conversionRate
  totalValue : l.totalValue = l'.totalValue

variable {l l' : Lane} {board board' : List Lane}

theorem extend_same (hlane : SameLane l l') (h : lead.Respelled Request.amountKeys lead')
    (x : Binary64) : SameLane (extend ids [lead] l [x]) (extend ids [lead'] l' [x]) where
  status := hlane.status
  leads := List.rel_append hlane.leads (.cons h .nil)
  convertedCount := by
    rw [extend, extend, hlane.convertedCount, List.countP_singleton, List.countP_singleton,
      isConverted_of_respelled h]
  conversionRate := hlane.conversionRate
  totalValue := by rw [extend, extend, hlane.totalValue]

/-- One lead: both lanes take it, or neither does, or both fail. -/
theorem take_alike (hlane : SameLane l l') (h : lead.Respelled Request.amountKeys lead') :
    Attempt.Alike SameLane (take ids lead l) (take ids lead' l') := by
  rw [take_eq, take_eq, hlane.status, isIn_of_respelled h, amount_of_respelled h]
  split
  · refine (Attempt.Alike.refl (amount lead')).map fun x y hxy => ?_
    rw [hxy]
    exact extend_same hlane h y
  · exact .ended hlane

theorem place_alike (hboard : List.Forall₂ SameLane board board')
    (h : lead.Respelled Request.amountKeys lead') :
    Attempt.Alike (List.Forall₂ SameLane) (place ids board lead) (place ids board' lead') :=
  .each hboard fun _ _ hlane => take_alike hlane h

theorem rate_same (hlane : SameLane l l') : SameLane (rate l) (rate l') := by
  have hlength := hlane.leads.length_eq
  have hempty : l.leads.isEmpty = l'.leads.isEmpty := by
    rw [Bool.eq_iff_iff, List.isEmpty_iff_length_eq_zero, hlength, List.isEmpty_iff_length_eq_zero]
  unfold rate
  rw [hempty]
  split
  · exact hlane
  · refine ⟨hlane.status, hlane.leads, hlane.convertedCount, ?_, hlane.totalValue⟩
    rw [hlane.convertedCount, hlength]

/-- All leads: two boards built from respelled leads and quotes end alike. -/
theorem build_alike (hleads : leads.RespelledItems Request.amountKeys leads')
    (hquotes : quotes.RespelledItems Request.amountKeys quotes') :
    Attempt.Alike (List.Forall₂ SameLane) (build leads quotes) (build leads' quotes') := by
  have hempty : List.Forall₂ SameLane empty empty :=
    List.forall₂_same.2 fun l hl => ⟨rfl, (mem_empty hl).1 ▸ .nil, rfl, rfl, rfl⟩
  rw [build, convertedIds_of_respelled hquotes, build]
  refine .after _ fun ids => hleads.elements_alike.bind fun items items' hitems => ?_
  -- The two loops are run side by side; that the boards are the same lane by lane is
  -- what every pair of leads keeps.
  have hloop : Attempt.Alike (List.Forall₂ SameLane) (items.foldlM (place ids) empty)
      (items'.foldlM (place ids) empty) :=
    .foldlM hitems (fun _ _ _ _ hboard h => place_alike hboard h) hempty
  refine hloop.bind fun board board' hboard => .ended ?_
  exact List.forall₂_map_left_iff.2 (List.forall₂_map_right_iff.2 (hboard.imp fun _ _ => rate_same))

end Board

/-! ## Integers as amounts -/

/-- **Integers are read as amounts however they are written.** An integer within
the doubles and its text, with blanks around it, are the same double. Where
integers are written out, in a criterion about the lifetime value, in a context or
in a record, a criterion is satisfied by the same contexts and the same records,
leads are of high value as before, and a board has the same lanes with the same
totals. What failed before fails in the same way. -/
theorem Numeral.Written.read_as_amounts :
    (∀ w : Numeral.Written, (Value.int w.value).toAmount = .ok (.ofInt w.value)
        ∧ (Value.text w.text).toAmount = .ok (.ofInt w.value))
    ∧ (∀ criterion criterion' ctx ctx' : Value, Criterion.Respelled criterion criterion' →
        ctx.Respelled ["lifetime_value"] ctx' →
        Criterion.holdsFor criterion ctx = Criterion.holdsFor criterion' ctx')
    ∧ (∀ criterion criterion' record record' : Value, Criterion.Respelled criterion criterion' →
        record.Respelled Request.amountKeys record' →
        ∀ (kind : Option Kind) (index : ClientIndex),
          Criterion.holdsFor criterion
              (.object ((Context.ofRecord kind index record).toFields (Kind.attributes kind)))
            = Criterion.holdsFor criterion'
              (.object ((Context.ofRecord kind index record').toFields (Kind.attributes kind))))
    ∧ (∀ lead lead' : Fields, lead.Respelled Request.amountKeys lead' →
        LeadQueue.isHighValue lead = LeadQueue.isHighValue lead')
    ∧ (∀ leads leads' quotes quotes' : Value, leads.RespelledItems Request.amountKeys leads' →
        quotes.RespelledItems Request.amountKeys quotes' →
        Attempt.Alike (List.Forall₂ Board.SameLane)
          (Board.build leads quotes) (Board.build leads' quotes')) := by
  refine ⟨fun w => ⟨w.toAmount_int, w.toAmount_text⟩, ?_, ?_,
    fun lead lead' h => LeadQueue.isHighValue_of_respelled h,
    fun leads leads' quotes quotes' hleads hquotes => Board.build_alike hleads hquotes⟩
  · intro criterion criterion' ctx ctx' hcriterion hctx
    exact hcriterion.holdsFor_eq (Rule.holdsFor_of_respelled hctx)
  · intro criterion criterion' record record' hcriterion hrecord kind index
    exact hcriterion.holdsFor_eq (Rule.holdsFor_record_of_respelled hrecord kind index)

/-- Twelve thousand between blanks. -/
def twelveThousand : Numeral.Written where
  before := " "
  value := 12000
  after := "\n"
  value_finite := by decide +kernel
  before_blank := by decide
  after_blank := by decide

/-- Zero, which counts as given only as a text. -/
def writtenZero : Numeral.Written where
  before := ""
  value := 0
  after := " "
  value_finite := by decide +kernel
  before_blank := by decide
  after_blank := by decide

/-- The first integer that is rounded. -/
def firstRounded : Numeral.Written where
  before := ""
  value := 9007199254740993
  after := ""
  value_finite := by decide +kernel
  before_blank := by decide
  after_blank := by decide

/-- A criterion about the lifetime value with an upper limit. -/
def upTo (limit : Value) : Value :=
  .object (Fields.put [("field", .text "lifetimeValue")] "value"
    (.object (Fields.put [("min", .text "0")] "max" limit)))

/-- A new lead with an estimate. -/
def estimated (estimate : Value) : Fields :=
  Fields.put [("id", .text "a"), ("status", .text "New")] "estimatedValue" estimate

theorem twelveThousand_read_as_amount :
    twelveThousand.text = Text.ofString " 12000\n" ∧ writtenZero.text = Text.ofString "0 "
    ∧ firstRounded.text = Text.ofString "9007199254740993"
    ∧ (Value.text firstRounded.text).toAmount = (Value.int 9007199254740993).toAmount
    ∧ Criterion.holdsFor (upTo (.text firstRounded.text))
        (.object (Fields.put [] "lifetime_value" (.text twelveThousand.text))) = .ok true
    ∧ Criterion.holdsFor (upTo (.text firstRounded.text))
        (.object ((Context.ofRecord (some .lead) []
          (.object (estimated (.text writtenZero.text)))).toFields Attribute.all)) = .ok true
    ∧ LeadQueue.isHighValue (estimated (.text twelveThousand.text)) = .ok true
    ∧ Attempt.Alike (List.Forall₂ Board.SameLane)
        (Board.build (.list [.object (estimated (.int 12000)), .object (estimated (.int 0))]) .null)
        (Board.build (.list [.object (estimated (.text twelveThousand.text)),
          .object (estimated (.text writtenZero.text))]) .null) := by
  obtain ⟨hread, hctx, hrecord, hlead, hboard⟩ := Numeral.Written.read_as_amounts
  have hcriterion : Criterion.Respelled (upTo (.int 9007199254740993))
      (upTo (.text firstRounded.text)) :=
    .object rfl (.limits (Fields.respelled_put _ (by decide) (.spelled firstRounded)))
      (Fields.sameBut_put_put List.mem_cons_self _ _ _)
  have hestimated : ∀ w : Numeral.Written,
      (estimated (.int w.value)).Respelled Request.amountKeys (estimated (.text w.text)) :=
    fun w => Fields.respelled_put _ (by decide) (.spelled w)
  refine ⟨by decide, by decide, by decide, ?_, ?_, ?_, ?_, ?_⟩
  · exact (hread firstRounded).2.trans (hread firstRounded).1.symm
  · have hworth : Fields.Respelled ["lifetime_value"]
        (Fields.put [] "lifetime_value" (.int twelveThousand.value))
        (Fields.put [] "lifetime_value" (.text twelveThousand.text)) :=
      Fields.respelled_put [] List.mem_cons_self (.spelled twelveThousand)
    refine (hctx _ _ _ _ hcriterion (.object hworth)).symm.trans ?_
    decide +kernel
  · refine (hrecord _ _ _ _ hcriterion (.object (hestimated writtenZero)) (some .lead) []).symm.trans
      ?_
    decide +kernel
  · refine (hlead _ _ (hestimated twelveThousand)).symm.trans ?_
    decide +kernel
  · exact hboard _ _ _ _ (.list (.cons (.object (hestimated twelveThousand))
      (.cons (.object (hestimated writtenZero)) .nil))) (.refl _)

end Audience
