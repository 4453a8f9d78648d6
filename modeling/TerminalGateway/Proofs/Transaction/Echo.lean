import TerminalGateway.Proofs.Command.Amount
import TerminalGateway.Proofs.Json.Members
import TerminalGateway.Proofs.Message.Answers
import TerminalGateway.Proofs.Transaction.Ruling

/-!
# Requests and answers agree on the number of a transaction

The number of a transaction goes out as a JSON number, as digits in a table, and as a part of the
ids of messages.  The answers give it back in forms of their own.  Whatever the forms are, an
answer is a reply to the transaction that was sent, and when it is terminal it ends that
transaction and no other.

Main definitions:

- `Command.Carries`: frames that carry the number of a transaction.

Main results:

- Theorem `Command.exists_transaction`: a transaction about an instrument can always be sent, and
  its frames carry its number.
- Theorem `Pending.resolve_eq_without`: a terminal reply ends the transaction of its number only.
- Theorem `answers_of_transaction`: requests and answers agree.
-/

namespace TerminalGateway.Command

open TerminalGateway.Json (Value)

/-! ## Requests -/

/-- Frames that carry the number of a transaction: for the web server one object with the number,
for the bridge the order, which has the number in its id and in its table, and the request for the
result, which has it in its id and as its argument. -/
inductive Carries (n : Nat) : Dialect → List String → Prop where
  | web {request : Value} (hid : request.get? "trans_id" = some (.ofInt n)) :
      Carries n .web [request.text]
  | bridge {order request : Value} {fields : List (String × String)}
      (horder : order.get? "id" = some (.string ("order_" ++ n.repr)))
      (htable : order.get? "args" = some (.array [.string (tableText fields)]))
      (hfield : ("TRANS_ID", n.repr) ∈ fields)
      (hrequest : request.get? "id" = some (.string (n.repr ++ "_reply")))
      (hargument : request.get? "args" = some (.array [.string n.repr])) :
      Carries n .bridge [order.text, request.text]

/-- What an order adds to a transaction can always be written, and has no number of its own. -/
theorem exists_sideMembers (intent : Intent) :
    ∃ members, sideMembers intent = .ok members ∧
      ∀ held : List (String × Value),
        (held ++ members).reverse.lookup "trans_id" = held.reverse.lookup "trans_id" := by
  unfold sideMembers
  cases intent.side with
  | none => exact ⟨[], rfl, fun held => by rw [List.append_nil]⟩
  | some side =>
      rcases exists_amount intent.price with ⟨price, hprice⟩
      rcases exists_amount intent.quantity with ⟨quantity, hquantity⟩
      refine ⟨[("sell", .ofInt side.sellFlag), ("price", price), ("quantity", quantity)], ?_,
        fun held => ?_⟩
      · dsimp only
        rw [hprice, hquantity]
        rfl
      · simp [List.lookup_cons]

/-- A call of the bridge is an object with its id and its arguments. -/
theorem exists_call (id method : String) (arguments : List String) :
    ∃ request : Value, call id method arguments = request.text ∧
      request.get? "id" = some (.string id) ∧
      request.get? "args" = some (.array (arguments.map Value.string)) := by
  refine ⟨_, rfl, ?_, ?_⟩
  · rw [Json.Value.get?_ofMembers]
    rfl
  · rw [Json.Value.get?_ofMembers]
    rfl

/-- A transaction about an instrument can always be sent, and its frames carry its number. -/
theorem exists_transaction (dialect : Dialect) (n : Nat) (account : TradeAccount) {intent : Intent}
    (hasset : intent.asset ≠ .any) :
    ∃ frames, transaction dialect n account intent = .ok frames ∧ Carries n dialect frames := by
  obtain ⟨classCode, secCode, hcodes⟩ :
      ∃ classCode secCode, codesOf intent.asset = .ok (classCode, secCode) := by
    cases hcase : intent.asset with
    | any => exact absurd hcase hasset
    | instrument classCode secCode => exact ⟨classCode, secCode, rfl⟩
  cases dialect with
  | web =>
      rcases exists_sideMembers intent with ⟨members, hmembers, hlookup⟩
      obtain ⟨head, htext, hhead⟩ : ∃ head : List (String × Value),
          transaction .web n account intent = .ok [objectText (head ++ members)] ∧
            head.reverse.lookup "trans_id" = some (.ofInt n) := by
        unfold transaction webTransaction
        rw [hcodes, hmembers]
        exact ⟨_, rfl, rfl⟩
      refine ⟨_, htext, .web ?_⟩
      rw [Json.Value.get?_ofMembers, hlookup, hhead]
  | bridge =>
      have hframes : transaction .bridge n account intent =
          .ok [
            call ("order_" ++ n.repr) "sendTransaction"
              [tableText (tableFields n account intent classCode secCode)],
            call (n.repr ++ "_reply") "OnTransReply" [n.repr]] := by
        unfold transaction bridgeTransaction
        rw [hcodes]
        rfl
      rcases exists_call ("order_" ++ n.repr) "sendTransaction"
        [tableText (tableFields n account intent classCode secCode)] with
        ⟨order, horder, horderId, htable⟩
      rcases exists_call (n.repr ++ "_reply") "OnTransReply" [n.repr] with
        ⟨request, hrequest, hrequestId, hargument⟩
      have hfield : ("TRANS_ID", n.repr) ∈ tableFields n account intent classCode secCode :=
        List.mem_append_left _ (by simp)
      rw [horder, hrequest] at hframes
      exact ⟨_, hframes, .bridge horderId htable hfield hrequestId hargument⟩

end TerminalGateway.Command

namespace TerminalGateway.Transaction

open TerminalGateway.Message (Answers Decided Id Kind)
open TerminalGateway.Json (Value)

/-! ## Answers -/

/-- A terminal reply ends the transaction of its number, if that is pending, and no other. -/
theorem Pending.resolve_eq_without (pending : Pending) {reply : Message.Reply} {n : Nat}
    (hid : reply.transactionId = some n) (hterminal : reply.status.isTerminal = true) :
    (pending.resolve reply).2 = pending.without n := by
  rw [resolve_of_terminal pending hid hterminal]
  cases hfound : pending.find? n with
  | none =>
      have hall : (pending.entries.filter fun entry => entry.transactionId ≠ n) =
          pending.entries := by
        refine List.filter_eq_self.mpr fun entry hentry => ?_
        exact decide_eq_true (find?_eq_none.mp hfound entry hentry)
      rw [without, hall]
  | some entry => rfl

/-- Requests and answers agree on the number of a transaction.  A transaction about an instrument
can be sent in either dialect, and its frames carry its number.  Every answer that gives the number
back is a reply to it: what is said about an order is interim, and the answer to the request for
the result is terminal where the status in it decides.  A terminal reply takes the transaction of
that number from those that are pending, and leaves all others. -/
theorem answers_of_transaction {n : Nat} (hlt : n < Number.signedLimit64) (account : TradeAccount)
    {intent : Intent} (hasset : intent.asset ≠ .any) :
    (∀ dialect, ∃ frames,
      Command.transaction dialect n account intent = .ok frames ∧
        Command.Carries n dialect frames) ∧
    ∀ id payload, Answers n id payload →
      ∃ reply, Kind.classify id payload = .reply reply ∧ reply.transactionId = some n ∧
        (id = .text ("order_" ++ n.repr) → reply.status = .interim) ∧
        (id = .text (n.repr ++ "_reply") →
          (reply.status.isTerminal = true ↔ Decided payload)) ∧
        (reply.status.isTerminal = true → ∀ pending : Pending,
          (pending.resolve reply).2.find? n = none ∧
          (∀ other, other ≠ n → (pending.resolve reply).2.find? other = pending.find? other) ∧
          (pending.resolve reply).2 =
            { pending with entries := pending.entries.filter fun entry =>
                entry.transactionId ≠ n }) := by
  refine ⟨fun dialect => Command.exists_transaction dialect n account hasset,
    fun id payload hanswers => ?_⟩
  rcases hanswers.classify_eq hlt with ⟨reply, hclassify, hid⟩
  refine ⟨reply, hclassify, hid, ?_, ?_, fun hterminal pending => ?_⟩
  · rintro rfl
    obtain rfl := Kind.reply.inj ((Message.classify_order hlt payload).symm.trans hclassify)
    rfl
  · rintro rfl
    obtain rfl := Kind.reply.inj ((Message.classify_result hlt payload).symm.trans hclassify)
    exact Message.isTerminal_ofResultAnswer_iff n payload
  · rw [pending.resolve_eq_without hid hterminal]
    refine ⟨?_, fun other hother => ?_, rfl⟩
    · rw [Pending.find?_without, if_pos rfl]
    · rw [Pending.find?_without, if_neg hother]

/-- The greatest number goes to the web server and comes back as digits in the last of the three
fields; of two pending transactions the other one is left. -/
theorem answers_of_transaction_greatest :
    9223372036854775807 < Number.signedLimit64 ∧
      (Intent.killAll (.instrument "QJSIM" "SBER")).asset ≠ .any ∧
      ∃ payload reply, payload = .object [("request", .string "9223372036854775807"),
          ("status", .ofInt 3)] ∧
        Kind.classify (.code 22003) payload = .reply reply ∧
        reply.transactionId = some 9223372036854775807 ∧
        ∀ first second : Entry, first.transactionId = 9223372036854775807 →
          second.transactionId = 1 →
          (Pending.resolve ⟨2, [first, second]⟩ reply).2 = ⟨2, [second]⟩ := by
  have hlt : 9223372036854775807 < Number.signedLimit64 := by decide
  have hasset : (Intent.killAll (.instrument "QJSIM" "SBER")).asset ≠ .any := by decide
  have hnames : Message.Names 9223372036854775807
      (.object [("request", .string "9223372036854775807"), ("status", .ofInt 3)]) := by
    refine ⟨⟨"request", by decide, _, rfl⟩, fun name hname value hvalue => ?_⟩
    simp only [Message.numberFields, List.mem_cons, List.not_mem_nil, or_false] at hname
    rcases hname with rfl | rfl | rfl
    · exact absurd hvalue (by simp [Value.get?, List.lookup_cons])
    · exact absurd hvalue (by simp [Value.get?, List.lookup_cons])
    · obtain rfl := Option.some.inj hvalue
      exact .digits
  have hanswers : Answers 9223372036854775807 (.code 22003)
      (.object [("request", .string "9223372036854775807"), ("status", .ofInt 3)]) :=
    .code (by decide) hnames
  rcases (answers_of_transaction hlt {} hasset).2 _ _ hanswers with
    ⟨reply, hclassify, hid, -, -, hresolve⟩
  refine ⟨hlt, hasset, _, reply, rfl, hclassify, hid, fun first second hfirst hsecond => ?_⟩
  have hterminal : reply.status.isTerminal = true := by
    obtain rfl := Kind.reply.inj (hclassify.symm.trans (b := Kind.reply (.ofPayload .order _)) rfl)
    rfl
  rw [(hresolve hterminal ⟨2, [first, second]⟩).2.2]
  simp [hfirst, hsecond]

end TerminalGateway.Transaction
