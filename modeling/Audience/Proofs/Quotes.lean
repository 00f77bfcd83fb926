import Audience.Proofs.Partition
import Audience.Proofs.Passes

/-!
# Quotes that convert nothing

A quote enters a board only through the id that it adds to the converted ones,
so a quote that adds none should be as good as not there. It is, wherever it
stands and whatever the leads are (`Board.build_insert_of_none`), as long as it
is read without a failure.

A quote that names a lead has its status looked up among the converting ones, and
a list or an object cannot be looked up. Such a quote converts nothing, but it
makes the whole board fail (`Board.build_insert_of_error`), and the board pass
puts four empty lanes and a message in its place. `Board.insert_quote` puts both
sides together.
-/

namespace Audience

namespace Attempt

variable {α β : Type} {f : α → Attempt (Option β)} {a : α}

/-- An item that contributes nothing may stand anywhere. -/
theorem each_insert_none (h : f a = .ok none) (pre post : List α) :
    (each f (pre ++ a :: post)).map (List.filterMap id)
      = (each f (pre ++ post)).map (List.filterMap id) := by
  rw [each_append, each_append, each, h]
  cases each f pre with
  | error failure => rfl
  | ok bs => cases each f post <;> simp [Except.bind, Except.map]

/-- An item that fails is the only one to blame. -/
theorem each_insert_error {failure : Failure} (h : f a = .error failure) {pre post : List α}
    {bs : List (Option β)} (hrest : each f (pre ++ post) = .ok bs) :
    each f (pre ++ a :: post) = .error failure := by
  rw [each_append] at hrest ⊢
  obtain ⟨cs, hpre, -⟩ := bind_eq_ok_iff.1 hrest
  rw [hpre, each, h]
  rfl

end Attempt

namespace Board

variable {leads : Value} {pre post : List Value} {quote : Value}

/-! ## What a quote is read as -/

/-- A quote for some lead that was accepted or converted. -/
def IsConverting (quote : Value) : Prop :=
  ∃ q, quote = .object q
    ∧ (Fields.get q "status" = .text "Accepted" ∨ Fields.get q "status" = .text "Converted")
    ∧ Fields.get q "leadId" ≠ .null

/-- A quote for some lead whose status is a list or an object. -/
def HasContainerStatus (quote : Value) : Prop :=
  ∃ q, quote = .object q ∧ Fields.get q "leadId" ≠ .null
    ∧ (Fields.get q "status").isContainer = true

theorem convertedId?_eq_none (hquote : ¬ IsConverting quote)
    (hstatus : ¬ HasContainerStatus quote) : convertedId? quote = .ok none := by
  have hread : (quote.fields.get "leadId").isNull = false →
      (quote.fields.get "status").isContainer = false := by
    intro hid
    have hne := Value.isNull_eq_false_iff.1 hid
    cases hcontainer : (quote.fields.get "status").isContainer with
    | false => rfl
    | true => exact absurd ⟨_, Value.eq_object_of_get_ne_null hne, hne, hcontainer⟩ hstatus
  obtain ⟨id, hid⟩ := exists_convertedId?_ok_iff.2 hread
  cases id with
  | none => exact hid
  | some text =>
      obtain ⟨q, hq, hconverts, hne, -⟩ := convertedId?_eq_some_iff.1 hid
      exact absurd ⟨q, hq, hconverts, hne⟩ hquote

theorem convertedId?_eq_error (h : HasContainerStatus quote) :
    convertedId? quote = .error (.unhashable (quote.fields.get "status").shape) := by
  obtain ⟨q, rfl, hid, hcontainer⟩ := h
  rw [convertedId?]
  simp only [Value.isNull_eq_false_iff.2 hid, Value.asKey, hcontainer, if_true]
  rfl

/-! ## What a quote does to a board -/

/-- Quotes matter by the ids that they convert. -/
theorem build_of_convertedIds_eq {quotes quotes' : Value}
    (h : convertedIds quotes' = convertedIds quotes) :
    build leads quotes' = build leads quotes := by
  rw [build, h, build]

theorem build_insert_of_none (h : convertedId? quote = .ok none) (leads : Value)
    (pre post : List Value) :
    build leads (.list (pre ++ quote :: post)) = build leads (.list (pre ++ post)) := by
  refine build_of_convertedIds_eq ?_
  have hsame := Attempt.each_insert_none h pre post
  have hids : ∀ quotes, convertedIds (.list quotes)
      = ((Attempt.each convertedId? quotes).map (List.filterMap id)).map
          fun ids => ids.foldr insertId [] := by
    intro quotes
    rw [convertedIds_list]
    cases Attempt.each convertedId? quotes <;> rfl
  rw [hids, hids, hsame]

theorem build_insert_of_error {failure : Failure} (h : convertedId? quote = .error failure)
    {board : List Lane} (hboard : build leads (.list (pre ++ post)) = .ok board) :
    build leads (.list (pre ++ quote :: post)) = .error failure := by
  obtain ⟨ids, hids, -⟩ := Attempt.bind_eq_ok_iff.1 hboard
  rw [convertedIds_list] at hids
  obtain ⟨results, hresults, -⟩ := Attempt.map_eq_ok_iff.1 hids
  rw [build, convertedIds_list, Attempt.each_insert_error h hresults]
  rfl

/-- **A quote that converts nothing leaves the board as it is, if its status can
be looked up.** Then the board pass ends with the same lanes and without a word
about it. A quote for some lead whose status is a list or an object makes the
board fail, and the pass leaves empty lanes and the complaint. -/
theorem insert_quote {leads : List Value} {board : List Lane}
    (h : build (.list leads) (.list (pre ++ post)) = .ok board) (hquote : ¬ IsConverting quote) :
    (¬ HasContainerStatus quote →
      build (.list leads) (.list (pre ++ quote :: post)) = .ok board
      ∧ ∀ d : Dashboard, d.filtered = some (.list leads) →
          d.quotes = some (.list (pre ++ quote :: post)) →
            d.boardPass = .ended { d with board := some (Dashboard.lanes board) })
    ∧ (HasContainerStatus quote →
      build (.list leads) (.list (pre ++ quote :: post))
        = .error (.unhashable (quote.fields.get "status").shape)
      ∧ ∀ (d : Dashboard) (errors : List Value), d.filtered = some (.list leads) →
          d.quotes = some (.list (pre ++ quote :: post)) → d.errors = some (.list errors) →
            d.boardPass = .ended { d with
              board := some (Dashboard.lanes empty)
              errors := some (.list (errors
                ++ [.text (Text.ofString "Board aggregation failed: "
                  ++ (Failure.unhashable (quote.fields.get "status").shape).message)])) }) := by
  have hboarding : ∀ d : Dashboard, d.filtered = some (.list leads) →
      d.quotes = some (.list (pre ++ quote :: post)) →
        d.boarding = build (.list leads) (.list (pre ++ quote :: post)) := by
    intro d hleads hquotes
    rw [Dashboard.boarding, hleads, hquotes, Option.getD_some, Option.getD_some]
  refine ⟨fun hstatus => ?_, fun hstatus => ?_⟩
  · have hsame := (build_insert_of_none (convertedId?_eq_none hquote hstatus) _ pre post).trans h
    refine ⟨hsame, fun d hleads hquotes => ?_⟩
    exact Dashboard.boardPass_of_built (by rw [hleads]; rfl)
      ((hboarding d hleads hquotes).trans hsame)
  · have hfailed := build_insert_of_error (convertedId?_eq_error hstatus) h
    refine ⟨hfailed, fun d errors hleads hquotes herrors => ?_⟩
    rw [Dashboard.boardPass_of_errors herrors hleads, hboarding d hleads hquotes, hfailed]
    rfl

def wonLead : Value := .object [("id", .text "a"), ("status", .text "New")]

def wonQuote : Value := .object [("leadId", .text "a"), ("status", .text "Accepted")]

def sentQuote : Value := .object [("leadId", .text "a"), ("status", .text "Sent")]

/-- A quote that was only sent changes nothing, between two that count. -/
theorem sentQuote_inserted :
    ∃ board, build (.list [wonLead]) (.list [wonQuote, wonQuote]) = .ok board
      ∧ build (.list [wonLead]) (.list [wonQuote, sentQuote, wonQuote]) = .ok board
      ∧ board.map Lane.convertedCount = [1, 0, 0, 0] := by
  have hlanes : (build (.list [wonLead]) (.list ([wonQuote] ++ [wonQuote]))).toOption.map
      (List.map Lane.convertedCount) = some [1, 0, 0, 0] := by decide +kernel
  obtain ⟨board, h, hboard⟩ := exists_build_of_map hlanes
  have hquote : ¬ IsConverting sentQuote := by
    rintro ⟨q, hq, hstatus, -⟩
    cases hq
    exact absurd (any_convertingStatuses.2 hstatus) (by decide)
  have hstatus : ¬ HasContainerStatus sentQuote := by
    rintro ⟨q, hq, -, hcontainer⟩
    cases hq
    cases hcontainer
  exact ⟨board, h, ((insert_quote h hquote).1 hstatus).1, hboard⟩

def listedQuote : Value :=
  .object [("leadId", .text "a"), ("status", .list [.text "Accepted"])]

/-- With the status of one quote in a list, the lead that was won counts no
more, and neither does any other. -/
theorem listedQuote_inserted :
    (build (.list [wonLead]) (.list [wonQuote])).toOption.map (List.map Lane.convertedCount)
        = some [1, 0, 0, 0]
      ∧ ¬ IsConverting listedQuote
      ∧ build (.list [wonLead]) (.list [wonQuote, listedQuote]) = .error (.unhashable .list) := by
  refine ⟨by decide +kernel, ?_, by rfl⟩
  rintro ⟨q, hq, hstatus, -⟩
  cases hq
  exact absurd (any_convertingStatuses.2 hstatus) (by decide)

end Board

end Audience
