import Audience.Proofs.Inert
import Audience.Proofs.Segments
import Audience.Proofs.Timestamps

/-!
# Timestamps of the same time are interchangeable

How a time is written is a matter of the program that saved it, so no rule may
depend on it. `Fields.Redated` says that the members of two objects differ in
nothing but how certain times are written. Of such a member the rules look at
two things only, the instant that it names and whether it counts as given, and
both are the same (`Value.SameTime.toInstant?_eq`, `Value.SameTime.isTruthy_eq`).
What a rule reads of a context, and in which form, is said once for all kinds of
rules (`Rule.holds_congr`), and so is what a context takes from which member of a
record (`Context.ofRecord_of_sameBut`).

The headline `Timestamp.Written.read_as_instants` collects what is known about
times: the numbering of days, the reading of every written timestamp and of the
text of every instant, and that criteria, records, contexts and leads can be
redated.
-/

namespace Audience

/-! ## Writing a time in another way -/

/-- Two values are the same, or say the same time in two ways. -/
inductive Value.SameTime : Value → Value → Prop where
  | refl (v : Value) : SameTime v v
  | written {a b : Timestamp.Written} (h : a.position = b.position) :
      SameTime (.text a.text) (.text b.text)

namespace Value.SameTime

variable {v v' : Value}

theorem toInstant?_eq (h : v.SameTime v') : v.toInstant? = v'.toInstant? := by
  cases h with
  | refl => rfl
  | written hposition =>
      rw [Timestamp.Written.toInstant?_text, Timestamp.Written.toInstant?_text, hposition]

theorem isTruthy_eq (h : v.SameTime v') : v.isTruthy = v'.isTruthy := by
  have hgiven : ∀ w : Timestamp.Written, (Value.text w.text).isTruthy = true := by
    intro w
    rw [isTruthy, List.isEmpty_eq_false_iff.2 w.text_ne_nil]
    rfl
  cases h with
  | refl => rfl
  | written => rw [hgiven, hgiven]

end Value.SameTime

/-- Members that differ in nothing but how the times under some keys are
written. -/
structure Fields.Redated (keys : List Text) (fields fields' : Fields) : Prop where
  times : ∀ key ∈ keys, (fields.get key).SameTime (fields'.get key)
  rest : ∀ key, key ∉ keys → fields.get key = fields'.get key

/-- Writing one of the times anew. -/
theorem Fields.redated_put (fields : Fields) {keys : List Text} {key : Text} (hkey : key ∈ keys)
    {v v' : Value} (h : v.SameTime v') :
    Redated keys (fields.put key v) (fields.put key v') where
  times other _ := get_put_related .refl fields key h other
  rest := sameBut_put_put hkey fields v v'

/-! ## Criteria -/

/-- Of its value a criterion keeps nothing but the rule. -/
theorem Criterion.ofValue_congr {fields fields' : Fields}
    (h : Fields.SameBut ["value"] fields fields')
    (hrule : Rule.ofValue (memberText fields "field") (fields.get "value")
      = Rule.ofValue (memberText fields "field") (fields'.get "value")) :
    ofValue (.object fields) = ofValue (.object fields') := by
  have htext : ∀ key, key ∉ [Text.ofString "value"] →
      memberText fields key = memberText fields' key := by
    intro key hkey
    rw [memberText, h key hkey, memberText]
  have hid := htext (Text.ofString "id") (by decide)
  have hfield := htext (Text.ofString "field") (by decide)
  have hlabel := h (Text.ofString "label") (by decide)
  have hoperator := h (Text.ofString "operator") (by decide)
  rw [hfield] at hrule
  simp only [ofValue, hid, hfield, hlabel, hoperator, hrule]

theorem Criterion.ofValue_of_redated {fields fields' : Fields}
    (hfield : memberText fields "field" = Text.ofString "lastInteraction")
    (h : Fields.Redated ["value"] fields fields') :
    ofValue (.object fields) = ofValue (.object fields') := by
  refine ofValue_congr h.rest ?_
  rw [hfield]
  exact congrArg (Except.map Rule.lastInteraction) (h.times _ List.mem_cons_self).toInstant?_eq

/-! ## Records and contexts -/

/-- A rule reads the lifetime value as an amount, the last interaction as an
instant, and everything else as it is. -/
theorem Rule.holds_congr {ctx ctx' : Context} (hworth : lifetime ctx = lifetime ctx')
    (hlast : ctx.lastInteraction.toInstant? = ctx'.lastInteraction.toInstant?)
    (hrest : ∀ a, a ≠ .lifetimeValue → a ≠ .lastInteraction → ctx.get a = ctx'.get a)
    (rule : Rule) : rule.holds ctx = rule.holds ctx' := by
  have hzip : ctx.zip = ctx'.zip := hrest .zip (by decide) (by decide)
  have hcity : ctx.city = ctx'.city := hrest .city (by decide) (by decide)
  have hstate : ctx.state = ctx'.state := hrest .state (by decide) (by decide)
  have hstatus : ctx.status = ctx'.status := hrest .status (by decide) (by decide)
  have htype : ctx.clientType = ctx'.clientType := hrest .clientType (by decide) (by decide)
  cases rule with
  | zip start => rw [holds, holds, hzip]
  | city fragment => rw [holds, holds, hcity]
  | state name => rw [holds, holds, hstate]
  | membership trait oneOf =>
      rw [holds, holds, hrest _ (by cases trait <;> decide) (by cases trait <;> decide)]
  | status oneOf => rw [holds, holds, hstatus]
  | clientType oneOf => rw [holds, holds, htype]
  | lifetimeRange minimum maximum => rw [holds, holds, hworth]
  | lifetimeMinimum minimum => rw [holds, holds, hworth]
  | lastInteraction since => rw [holds, holds, hlast]
  | unknown field => rfl

/-- A record's context takes its worth from one member and its last interaction
from another, and nothing else from either. -/
theorem Context.ofRecord_of_sameBut {fields fields' : Fields}
    (h : Fields.SameBut ("updatedAt" :: Request.amountKeys) fields fields') (kind : Kind)
    (index : ClientIndex) :
    ofRecord (some kind) index (.object fields)
      = { ofRecord (some kind) index (.object fields') with
          lifetimeValue := (fields.get kind.worthKey).orElse (.int 0)
          lastInteraction := fields.get "updatedAt" } := by
  have hmembers : ∀ fields : Fields, (Value.object fields).fields = fields := fun _ => rfl
  have hsame : ∀ key, key ∉ (Text.ofString "updatedAt" :: Request.amountKeys) →
      fields.get key = fields'.get key := h
  cases kind <;>
    simp (disch := decide) only [ofRecord, Projection.client, Projection.lead, Projection.quote,
      Projection.clientType, Kind.worthKey, hmembers, hsame]

/-- Contexts that differ in nothing but how the last interaction is written. -/
structure Context.Redated (ctx ctx' : Context) : Prop where
  time : ctx.lastInteraction.SameTime ctx'.lastInteraction
  rest : ∀ a, a ≠ .lastInteraction → ctx.get a = ctx'.get a

theorem Rule.holds_of_redated {ctx ctx' : Context} (h : ctx.Redated ctx') (rule : Rule) :
    rule.holds ctx = rule.holds ctx' := by
  have hworth : ctx.lifetimeValue = ctx'.lifetimeValue := h.rest .lifetimeValue (by decide)
  refine rule.holds_congr ?_ h.time.toInstant?_eq fun a _ hlast => h.rest a hlast
  rw [lifetime, lifetime, hworth]

theorem Context.redated_ofRecord {fields fields' : Fields}
    (h : Fields.Redated ["updatedAt"] fields fields') (kind : Option Kind) (index : ClientIndex) :
    (ofRecord kind index (.object fields)).Redated (ofRecord kind index (.object fields')) := by
  cases kind with
  | none => exact ⟨.refl _, fun _ _ => rfl⟩
  | some kind =>
      have hrest : Fields.SameBut ["updatedAt"] fields fields' := h.rest
      have hworth : fields.get kind.worthKey = fields'.get kind.worthKey :=
        h.rest _ (by cases kind <;> decide)
      rw [ofRecord_of_sameBut (hrest.mono (by decide))]
      constructor
      · rw [lastInteraction_ofRecord]
        exact h.times _ List.mem_cons_self
      · intro a ha
        cases a with
        | lastInteraction => exact absurd rfl ha
        | lifetimeValue =>
            rw [hworth]
            exact (lifetimeValue_ofRecord kind index (.object fields')).symm
        | _ => rfl

theorem Context.redated_ofFields {fields fields' : Fields}
    (h : Fields.Redated ["last_interaction"] fields fields') :
    (ofFields fields).Redated (ofFields fields') where
  time := h.times _ List.mem_cons_self
  rest := by
    intro a ha
    have hkey : a.key ∉ [Text.ofString "last_interaction"] := by
      cases a with
      | lastInteraction => exact absurd rfl ha
      | _ => decide
    rw [get_ofFields, get_ofFields, h.rest _ hkey]

theorem Rule.holdsFor_of_redated {fields fields' : Fields}
    (h : Fields.Redated ["last_interaction"] fields fields') (rule : Rule) :
    rule.holdsFor (.object fields) = rule.holdsFor (.object fields') := by
  rw [holdsFor_object, holdsFor_object]
  exact holds_of_redated (Context.redated_ofFields h) rule

/-! ## Leads -/

theorem LeadQueue.referenceTime_of_sameTime {now now' : Value} (h : now.SameTime now')
    (clock : Instant) : referenceTime clock now = referenceTime clock now' := by
  rw [referenceTime, h.toInstant?_eq, referenceTime]

theorem LeadQueue.isStalled_of_redated {lead lead' : Fields}
    (h : Fields.Redated ["nextFollowupDate", "lastContactDate"] lead lead') (now : Instant) :
    isStalled now lead = isStalled now lead' := by
  have hnext := h.times (Text.ofString "nextFollowupDate") (by decide)
  have hlast := h.times (Text.ofString "lastContactDate") (by decide)
  unfold isStalled
  simp only [hnext.toInstant?_eq, hnext.isTruthy_eq, hlast.toInstant?_eq, hlast.isTruthy_eq]

theorem LeadQueue.isStalledAt_of_redated {now now' : Value} (hnow : now.SameTime now')
    {lead lead' : Fields}
    (h : Fields.Redated ["nextFollowupDate", "lastContactDate"] lead lead') (clock : Instant) :
    isStalledAt clock now (.object lead) = isStalledAt clock now' (.object lead') := by
  have hlookup : ∀ fields : Fields, (Value.object fields).lookup = .ok fields := fun _ => rfl
  unfold isStalledAt
  rw [referenceTime_of_sameTime hnow, hlookup, hlookup]
  cases referenceTime clock now' with
  | error failure => rfl
  | ok time => exact isStalled_of_redated h time

/-! ## Times as instants -/

/-- **Times are read as instants.** Numbers of days count from the first date of
the calendar; a written timestamp is read as the instant at the position that it
means, if there is one; the text of an instant is read as that instant; and where
times are written in another way, a criterion about the last interaction is read
to the same rule, records and contexts satisfy the same rules, and leads are
stalled at the same times. -/
theorem Timestamp.Written.read_as_instants :
    (∀ d : Date, d.IsValid → Date.afterDays d.ordinal = d)
    ∧ (∀ (w : Timestamp.Written) (i : Instant), (i.micros : Int) = w.position →
        (Value.text w.text).toInstant? = .ok (some i))
    ∧ (∀ i : Instant, (Value.text i.toText).toInstant? = .ok (some i))
    ∧ (∀ fields fields' : Fields,
        Criterion.memberText fields "field" = Text.ofString "lastInteraction" →
        Fields.Redated ["value"] fields fields' →
        Criterion.ofValue (.object fields) = Criterion.ofValue (.object fields'))
    ∧ (∀ record record' : Fields, Fields.Redated ["updatedAt"] record record' →
        ∀ (rule : Rule) (kind : Option Kind) (index : ClientIndex),
          rule.holds (Context.ofRecord kind index (.object record))
            = rule.holds (Context.ofRecord kind index (.object record')))
    ∧ (∀ ctx ctx' : Fields, Fields.Redated ["last_interaction"] ctx ctx' →
        ∀ rule : Rule, rule.holdsFor (.object ctx) = rule.holdsFor (.object ctx'))
    ∧ (∀ (now now' : Value) (lead lead' : Fields), now.SameTime now' →
        Fields.Redated ["nextFollowupDate", "lastContactDate"] lead lead' →
        ∀ clock : Instant, LeadQueue.isStalledAt clock now (.object lead)
          = LeadQueue.isStalledAt clock now' (.object lead')) := by
  refine ⟨fun d hd => Date.afterDays_ordinal hd, fun w i hi => w.toInstant?_eq_ok hi, ?_,
    fun fields fields' hfield h => Criterion.ofValue_of_redated hfield h, ?_,
    fun ctx ctx' h rule => rule.holdsFor_of_redated h,
    fun now now' lead lead' hnow h clock => LeadQueue.isStalledAt_of_redated hnow h clock⟩
  · intro i
    rw [← text_ofInstant]
    exact toInstant?_eq_ok _ (position_ofInstant i).symm
  · intro record record' h rule kind index
    exact rule.holds_of_redated (Context.redated_ofRecord h kind index)

/-- The evening of a leap day far in the west, with seven places behind the
second and blanks around. -/
def leapEvening : Timestamp.Written where
  before := [code ' ']
  date := { year := 2024, month := 2, day := 29 }
  spaced := false
  clock :=
    { hour := ⟨23, by decide⟩, minute := ⟨59, by decide⟩, second := ⟨59, by decide⟩
      fraction := "1234567", fraction_digits := by decide }
  zone := .offset { negative := true, hours := ⟨5, by decide⟩, minutes := ⟨30, by decide⟩ }
  after := [code ' ', 0x0A]
  date_valid := by decide
  before_blank := by decide
  after_blank := by decide

/-- The same time in the next month, cut to the microsecond. -/
def marchMorning : Timestamp.Written where
  before := []
  date := { year := 2024, month := 3, day := 1 }
  spaced := true
  clock :=
    { hour := ⟨5, by decide⟩, minute := ⟨29, by decide⟩, second := ⟨59, by decide⟩
      fraction := "123456", fraction_digits := by decide }
  zone := .zulu true
  after := []
  date_valid := by decide
  before_blank := by decide
  after_blank := by decide

theorem leapEvening_marchMorning :
    leapEvening.text = Text.ofString " 2024-02-29T23:59:59.1234567-05:30 \n"
    ∧ marchMorning.text = Text.ofString "2024-03-01 05:29:59.123456z"
    ∧ (Value.text leapEvening.text).SameTime (.text marchMorning.text)
    ∧ leapEvening.date.IsValid ∧ Date.afterDays leapEvening.date.ordinal = leapEvening.date
    ∧ ∃ i : Instant, (i.micros : Int) = leapEvening.position
      ∧ (Value.text leapEvening.text).toInstant? = .ok (some i)
      ∧ (Value.text i.toText).toInstant? = .ok (some i)
      ∧ Criterion.ofValue (.object [("field", .text "lastInteraction"),
          ("value", .text leapEvening.text)])
        = Criterion.ofValue (.object [("field", .text "lastInteraction"),
          ("value", .text marchMorning.text)])
      ∧ (Rule.lastInteraction (some i)).holds
          (Context.ofRecord (some .quote) [] (.object [("updatedAt", .text leapEvening.text)]))
        = (Rule.lastInteraction (some i)).holds
          (Context.ofRecord (some .quote) [] (.object [("updatedAt", .text marchMorning.text)]))
      ∧ (Rule.lastInteraction (some i)).holdsFor
          (.object [("last_interaction", .text leapEvening.text)])
        = (Rule.lastInteraction (some i)).holdsFor
          (.object [("last_interaction", .text marchMorning.text)])
      ∧ LeadQueue.isStalledAt i (.text leapEvening.text)
          (.object [("lastContactDate", .text leapEvening.text)])
        = LeadQueue.isStalledAt i (.text marchMorning.text)
          (.object [("lastContactDate", .text marchMorning.text)]) := by
  have hsame : (Value.text leapEvening.text).SameTime (.text marchMorning.text) :=
    .written (by decide)
  obtain ⟨hdays, hread, hback, hcriterion, hrecord, hcontext, hlead⟩ :=
    Timestamp.Written.read_as_instants
  let i : Instant := ⟨leapEvening.position.toNat, by decide⟩
  have hposition : (i.micros : Int) = leapEvening.position := by decide
  have hredated : ∀ (fields : Fields) {keys : List Text} {key : Text}, key ∈ keys →
      Fields.Redated keys (fields.put key (.text leapEvening.text))
        (fields.put key (.text marchMorning.text)) :=
    fun fields _ _ hkey => fields.redated_put hkey hsame
  refine ⟨by decide, by decide, hsame, leapEvening.date_valid,
    hdays _ leapEvening.date_valid, i, hposition, hread _ _ hposition, hback i, ?_, ?_, ?_, ?_⟩
  · exact hcriterion _ _ rfl (hredated [("field", .text "lastInteraction")] List.mem_cons_self)
  · exact hrecord _ _ (hredated [] List.mem_cons_self) _ _ _
  · exact hcontext _ _ (hredated [] List.mem_cons_self) _
  · exact hlead _ _ _ _ hsame (hredated [] (List.mem_cons_of_mem _ List.mem_cons_self)) i

end Audience
