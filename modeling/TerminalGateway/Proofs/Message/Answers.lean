import TerminalGateway.Message.Kind
import TerminalGateway.Proofs.Text.Digits

/-!
# Answers name their transaction

A terminal gives the number of a transaction back as a JSON number, as a text of digits, or as a
part of the id of a message.  Whatever form an answer has, it is a reply to the transaction of that
number.

Main definitions:

- `IsNumber`: a value that stands for a number.
- `Answers`: the messages that give a number back.
- `Decided`: a payload whose result says how a transaction ended.

Main results:

- Theorem `Answers.classify_eq`: each of them is a reply with that number.
- Theorem `isTerminal_ofResultAnswer_iff`: the answer to a request for a result is terminal where
  the status in it decides.
-/

namespace TerminalGateway.Message

open TerminalGateway.Json (Value)

variable {n : Nat} {payload value : Value}

/-- A value that stands for a number: the number itself, or its digits. -/
inductive IsNumber (n : Nat) : Value → Prop where
  | number : IsNumber n (.number (.whole n))
  | digits : IsNumber n (.string n.repr)

/-- A whole number of 64 bits with a sign that is not negative is one of 64 bits without. -/
theorem natural?_of_lt (h : n < Number.signedLimit64) : Scalar.natural? (n : Int) = some n := by
  have hlimit : Number.signedLimit64 ≤ Number.limit64 := by decide
  unfold Scalar.natural?
  rw [if_pos (by omega)]
  rfl

/-- Both forms are read as the number. -/
theorem IsNumber.int?_eq (hvalue : IsNumber n value) (h : n < Number.signedLimit64) :
    Scalar.int? value = some (n : Int) := by
  cases hvalue with
  | number =>
      have hlt : (n : Int) < Number.signedLimit64 := Int.ofNat_lt.mpr h
      rw [Scalar.int?, Json.Number.int?, if_pos hlt]
  | digits =>
      rw [Scalar.int?, Nat.toList_repr, Text.trim_toDigits]
      exact Text.readInt?_toDigits h

/-! ## Messages known by a number -/

/-- The numbers of the messages that answer a transaction. -/
def replyCodes : List Int :=
  [21009, 22000, 22001, 22002, 22003, 22004, 22100, 22101]

/-- The fields that may hold the number of a transaction, the first that can be read counts. -/
def numberFields : List String :=
  ["trans_id", "transid", "request"]

/-- A payload that gives a number back in at least one of its fields, and no other number. -/
structure Names (n : Nat) (payload : Value) : Prop where
  present : ∃ name ∈ numberFields, ∃ value, payload.get? name = some value
  only : ∀ name ∈ numberFields, ∀ value, payload.get? name = some value → IsNumber n value

/-- The first field that is there is read as the number. -/
theorem Names.first?_eq (hnames : Names n payload) (h : n < Number.signedLimit64) :
    Scalar.first? Scalar.int? payload numberFields = some (n : Int) := by
  rcases hnames with ⟨⟨name, hmem, value, hvalue⟩, honly⟩
  have hread : payload.get? name >>= Scalar.int? = some (n : Int) := by
    rw [hvalue]
    exact (honly name hmem value hvalue).int?_eq h
  unfold Scalar.first?
  cases hfound : numberFields.findSome? fun name => payload.get? name >>= Scalar.int? with
  | none =>
      rw [List.findSome?_eq_none_iff.mp hfound name hmem] at hread
      exact absurd hread (by simp)
  | some found =>
      rcases List.exists_of_findSome?_eq_some hfound with ⟨other, hother, hheld⟩
      rcases Option.bind_eq_some_iff.mp hheld with ⟨held, hget, hint⟩
      exact congrArg some (Option.some.inj
        (hint.symm.trans ((honly other hother held hget).int?_eq h)))

theorem Names.transactionId_eq (hnames : Names n payload) (h : n < Number.signedLimit64)
    (kind : ReplyKind) : (Reply.ofPayload kind payload).transactionId = some n := by
  change Scalar.first? Scalar.int? payload numberFields >>= Scalar.natural? = some n
  rw [hnames.first?_eq h, Option.bind_eq_bind, Option.bind_some, natural?_of_lt h]

/-- Each message with such a number is a reply. -/
theorem ofCode_of_mem_replyCodes {code : Int} (hcode : code ∈ replyCodes) (payload : Value) :
    ∃ kind, Kind.ofCode code payload = .reply (.ofPayload kind payload) := by
  have hcases : code = 21009 ∨ (22000 ≤ code ∧ code ≤ 22004) ∨ code = 22100 ∨ code = 22101 := by
    simp only [replyCodes, List.mem_cons, List.not_mem_nil, or_false] at hcode
    omega
  unfold Kind.ofCode
  rcases hcases with rfl | ⟨hlow, hhigh⟩ | hcancel
  · exact ⟨.transaction, by simp⟩
  · refine ⟨.order, ?_⟩
    iterate 13 rw [if_neg (by omega)]
    rw [if_pos ⟨hlow, hhigh⟩]
  · refine ⟨.cancel, ?_⟩
    iterate 14 rw [if_neg (by omega)]
    rw [if_pos hcancel]

/-! ## Messages known by a text -/

theorem after?_append (beginning rest : List Char) :
    Reply.after? beginning (beginning ++ rest) = some rest := by
  rw [Reply.after?, if_pos (List.isPrefixOf_iff_prefix.mpr (List.prefix_append _ _)),
    List.drop_left]

theorem before?_append (front ending : List Char) :
    Reply.before? ending (front ++ ending) = some front := by
  have htake : (front ++ ending).take ((front ++ ending).length - ending.length) = front := by
    rw [List.length_append, Nat.add_sub_cancel, List.take_left]
  rw [Reply.before?, if_pos (List.isSuffixOf_iff_suffix.mpr (List.suffix_append _ _)), htake]

/-- What does not begin with the first character of a text does not begin with that text. -/
theorem isPrefixOf_cons_of_ne {a b : Char} (hne : a ≠ b) (beginning rest : List Char) :
    List.isPrefixOf (a :: beginning) (b :: rest) = false := by
  rw [List.isPrefixOf_cons_cons, beq_eq_false_iff_ne.mpr hne, Bool.false_and]

theorem toList_order : "order_".toList = ['o', 'r', 'd', 'e', 'r', '_'] := by
  decide

/-- The id of what is said about an order. -/
theorem ofTextId?_order (h : n < Number.signedLimit64) (payload : Value) :
    Reply.ofTextId? ("order_" ++ n.repr) payload = some (.ofOrderNotice n payload) := by
  have hlt : n < Number.limit64 := Nat.lt_trans h (by decide)
  rw [Reply.ofTextId?, String.toList_append, Nat.toList_repr, after?_append]
  dsimp only
  rw [Text.readNat?_toDigits hlt]
  rfl

/-- The id of an answer to a request for a result.  It begins with a digit and so is not that of
what is said about an order. -/
theorem ofTextId?_result (h : n < Number.signedLimit64) (payload : Value) :
    Reply.ofTextId? (n.repr ++ "_reply") payload = some (.ofResultAnswer n payload) := by
  have hlt : n < Number.limit64 := Nat.lt_trans h (by decide)
  have hafter : Reply.after? "order_".toList (Nat.toDigits 10 n ++ "_reply".toList) = none := by
    rcases Text.toDigits_eq_cons n with ⟨c, rest, hcons, hdigit⟩
    have hne : 'o' ≠ c := by
      rintro rfl
      exact absurd hdigit (by decide)
    rw [Reply.after?, toList_order, hcons, List.cons_append, isPrefixOf_cons_of_ne hne]
    rfl
  rw [Reply.ofTextId?, String.toList_append, Nat.toList_repr, hafter, before?_append]
  dsimp only
  rw [Text.readNat?_toDigits hlt]
  rfl

/-- An id that does not begin as one of the bridge's own names is only looked at for a number. -/
theorem ofName_of_textId {name : String} {c : Char} {rest : List Char} {answer : Reply}
    (hname : name.toList = c :: rest) (hm : 'm' ≠ c) (hc : 'c' ≠ c)
    (hanswer : Reply.ofTextId? name payload = some answer) :
    Kind.ofName name payload = .reply answer := by
  have hauthList : authName.toList = 'm' :: "sg_auth".toList := by decide
  have hcallbackList : callbackName.toList = 'c' :: "allback".toList := by decide
  have hfeedList : feedName.toList = 'm' :: "sg_create_ds".toList := by decide
  have hauth : name ≠ authName := by
    intro heq
    rw [heq, hauthList] at hname
    exact hm (List.head_eq_of_cons_eq hname)
  have hcallback : name ≠ callbackName := by
    intro heq
    rw [heq, hcallbackList] at hname
    exact hc (List.head_eq_of_cons_eq hname)
  have hfeed : feedName.toList.isPrefixOf name.toList = false := by
    rw [hfeedList, hname]
    exact isPrefixOf_cons_of_ne hm _ _
  rw [Kind.ofName, if_neg hauth, if_neg hcallback, hfeed, hanswer]
  rfl

theorem classify_order (h : n < Number.signedLimit64) (payload : Value) :
    Kind.classify (.text ("order_" ++ n.repr)) payload = .reply (.ofOrderNotice n payload) := by
  have hlist : ("order_" ++ n.repr).toList =
      'o' :: (['r', 'd', 'e', 'r', '_'] ++ Nat.toDigits 10 n) := by
    rw [String.toList_append, Nat.toList_repr, toList_order]
    rfl
  exact ofName_of_textId hlist (by decide) (by decide) (ofTextId?_order h payload)

theorem classify_result (h : n < Number.signedLimit64) (payload : Value) :
    Kind.classify (.text (n.repr ++ "_reply")) payload = .reply (.ofResultAnswer n payload) := by
  rcases Text.toDigits_eq_cons n with ⟨c, rest, hcons, hdigit⟩
  have hne : 'm' ≠ c ∧ 'c' ≠ c := by
    constructor <;> rintro rfl <;> exact absurd hdigit (by decide)
  have hlist : (n.repr ++ "_reply").toList = c :: (rest ++ "_reply".toList) := by
    rw [String.toList_append, Nat.toList_repr, hcons, List.cons_append]
  exact ofName_of_textId hlist hne.1 hne.2 (ofTextId?_result h payload)

/-- An event with the result of a transaction is a reply. -/
theorem classify_callback {result : Value} (h : n < Number.signedLimit64)
    (hname : payload.get? "callback_name" = some (.string "OnTransReply"))
    (hresult : payload.get? "result" = some result)
    (hid : result.get? "trans_id" = some value) (hvalue : IsNumber n value) :
    Kind.classify (.text callbackName) payload = .reply (.ofResult n result) := by
  have hint : Scalar.intAt? result "trans_id" = some (n : Int) := by
    rw [Scalar.intAt?, hid]
    exact hvalue.int?_eq h
  have hcallback : Reply.ofCallback? result = some (.ofResult n result) := by
    rw [Reply.ofCallback?, hint, Option.bind_eq_bind, Option.bind_some, natural?_of_lt h]
    rfl
  have hnotAuth : callbackName ≠ authName := by decide
  rw [Kind.classify, Kind.ofName, if_neg hnotAuth, if_pos rfl]
  simp only [Kind.ofCallback, hname, hresult, Option.bind_some, Value.string?, hcallback]

/-! ## All answers -/

/-- The messages that give the number of a transaction back: those known by a number, what is said
about an order, the answer to a request for its result, and the event with its result. -/
inductive Answers (n : Nat) : Id → Value → Prop where
  | code {code : Int} {payload : Value} (hcode : code ∈ replyCodes) (hnames : Names n payload) :
      Answers n (.code code) payload
  | order (payload : Value) : Answers n (.text ("order_" ++ n.repr)) payload
  | result (payload : Value) : Answers n (.text (n.repr ++ "_reply")) payload
  | callback {payload result value : Value}
      (hname : payload.get? "callback_name" = some (.string "OnTransReply"))
      (hresult : payload.get? "result" = some result)
      (hid : result.get? "trans_id" = some value) (hvalue : IsNumber n value) :
      Answers n (.text callbackName) payload

/-- Every answer is a reply to the transaction whose number it gives back. -/
theorem Answers.classify_eq {id : Id} (hanswers : Answers n id payload)
    (h : n < Number.signedLimit64) :
    ∃ reply, Kind.classify id payload = .reply reply ∧ reply.transactionId = some n := by
  cases hanswers with
  | code hcode hnames =>
      rcases ofCode_of_mem_replyCodes hcode payload with ⟨kind, hkind⟩
      exact ⟨_, hkind, hnames.transactionId_eq h kind⟩
  | order => exact ⟨_, classify_order h payload, rfl⟩
  | result =>
      refine ⟨_, classify_result h payload, ?_⟩
      unfold Reply.ofResultAnswer
      split <;> rfl
  | callback hname hresult hid hvalue =>
      exact ⟨_, classify_callback h hname hresult hid hvalue, rfl⟩

/-- A payload whose result is an object with the status of a transaction that is over: neither sent
nor received. -/
def Decided (payload : Value) : Prop :=
  ∃ members status, payload.get? "result" = some (.object members) ∧
    Scalar.intAt? (.object members) "status" = some status ∧ status ≠ 0 ∧ status ≠ 1

theorem isTerminal_ofTransactionStatus (status : Int) :
    (Status.ofTransactionStatus status).isTerminal = true ↔ status ≠ 0 ∧ status ≠ 1 := by
  unfold Status.ofTransactionStatus
  split <;> rename_i hcode
  · simp only [Status.isTerminal, Bool.false_eq_true, false_iff]
    omega
  split <;> simp only [Status.isTerminal, true_iff] <;> omega

/-- A result is terminal where its status says that the transaction is over. -/
theorem isTerminal_ofResult_iff (n : Nat) (result : Value) :
    (Reply.ofResult n result).status.isTerminal = true ↔
      ∃ status, Scalar.intAt? result "status" = some status ∧ status ≠ 0 ∧ status ≠ 1 := by
  unfold Reply.ofResult
  cases hstatus : Scalar.intAt? result "status" with
  | none => simp [Status.isTerminal]
  | some status => simp [isTerminal_ofTransactionStatus]

/-- The answer to a request for a result is terminal exactly when its payload is decided. -/
theorem isTerminal_ofResultAnswer_iff (n : Nat) (payload : Value) :
    (Reply.ofResultAnswer n payload).status.isTerminal = true ↔ Decided payload := by
  unfold Reply.ofResultAnswer Decided
  cases hresult : payload.get? "result" with
  | none => simp [Status.isTerminal]
  | some result =>
      cases result with
      | object members => simp [isTerminal_ofResult_iff]
      | _ => simp [Status.isTerminal]

end TerminalGateway.Message
