import TerminalGateway.Settings.Reader

/-!
# Sizes of settings

Every number of the settings has a size, 32 or 64 bits, and a text with a number beyond it cannot
be read as settings.

Main definitions:

- `Settings.IsSized`: the numbers of the settings fit.

Main results:

- Theorem `Settings.isSized_of_parse`: settings that are read are sized.
-/

namespace TerminalGateway

open TerminalGateway.Json (Tree)
open TerminalGateway.Number (limit32 limit64)

/-! ## Fields -/

/-- A whole number that is read is below its limit. -/
theorem Json.Tree.lt_of_nat? {limit value : Nat} {tree : Tree}
    (h : tree.nat? limit = some value) : value < limit := by
  rcases Option.map_eq_some_iff.mp h with ⟨read, hread, rfl⟩
  unfold Tree.int? at hread
  split at hread
  · split at hread <;> rename_i hrange
    · cases hread
      omega
    · cases hread
  · cases hread

/-- What holds of a default and of all that can be read holds of a field with this default. -/
theorem Json.Record.defaulted_induction {α : Type} (P : α → Prop) {record : Json.Record}
    {name : String} {default value : α} {read : Tree → Option α}
    (h : record.defaulted name default read = some value) (hdefault : P default)
    (hread : ∀ {tree value}, read tree = some value → P value) : P value := by
  unfold defaulted at h
  split at h
  · exact hread h
  · exact Option.some.inj h ▸ hdefault

/-! ## Parts -/

/-- The numbers of an endpoint fit. -/
def Endpoint.IsSized : Endpoint → Prop
  | .webSocket _ => True
  | .socket _ _ maxLength => maxLength < limit64

/-- The numbers of what is asked for fit. -/
def Feed.IsSized (feed : Feed) : Prop :=
  feed.period < limit32 ∧ feed.depth < limit32

/-- The numbers of how a session is probed fit. -/
def Probing.IsSized (probing : Probing) : Prop :=
  probing.interval < limit64 ∧ probing.limit < limit32

/-- The numbers of a retry policy fit. -/
def Connection.RetryPolicy.IsSized (policy : Connection.RetryPolicy) : Prop :=
  policy.initialDelay < limit64 ∧ policy.maxDelay < limit64 ∧
    ∀ bound ∈ policy.maxRetries, bound < limit32

namespace Settings

variable {record : Json.Record} {name : String} {tree : Tree} {default value : Nat}

theorem lt_of_defaulted32 (h : record.defaulted name default readNat32? = some value)
    (hdefault : default < limit32) : value < limit32 :=
  Json.Record.defaulted_induction (· < limit32) h hdefault Tree.lt_of_nat?

theorem lt_of_defaulted64 (h : record.defaulted name default readSize? = some value)
    (hdefault : default < limit64) : value < limit64 :=
  Json.Record.defaulted_induction (· < limit64) h hdefault Tree.lt_of_nat?

theorem isSized_of_kind {kind : String} {endpoint : Endpoint}
    (h : endpointOfKind? kind tree = some endpoint) : endpoint.IsSized := by
  unfold endpointOfKind? at h
  split at h
  · simp only [bind, Option.bind_eq_some_iff] at h
    rcases h with ⟨record, -, url, -, hendpoint⟩
    cases hendpoint
    exact trivial
  · split at h
    · simp only [bind, Option.bind_eq_some_iff] at h
      rcases h with ⟨record, -, address, -, delimiter, -, maxLength, hlength, hendpoint⟩
      cases hendpoint
      exact lt_of_defaulted64 hlength (by decide)
    · cases h

theorem isSized_of_readEndpoint? {depth : Nat} {endpoint : Endpoint}
    (h : readEndpoint? depth tree = some endpoint) : endpoint.IsSized := by
  unfold readEndpoint? at h
  split at h
  · split at h
    · rcases Option.bind_eq_some_iff.mp h with ⟨kind, -, hkind⟩
      exact isSized_of_kind hkind
    · cases h
  · rcases Option.bind_eq_some_iff.mp h with ⟨kind, -, hkind⟩
    exact isSized_of_kind hkind
  · cases h

theorem isSized_of_readFeed? {feed : Feed} (h : readFeed? tree = some feed) : feed.IsSized := by
  simp only [readFeed?, bind, Option.bind_eq_some_iff] at h
  rcases h with ⟨record, -, period, hperiod, depth, hdepth, hfeed⟩
  cases hfeed
  exact ⟨lt_of_defaulted32 hperiod (by decide), lt_of_defaulted32 hdepth (by decide)⟩

theorem isSized_of_readProbing? {probing : Probing} (h : readProbing? tree = some probing) :
    probing.IsSized := by
  simp only [readProbing?, bind, Option.bind_eq_some_iff] at h
  rcases h with ⟨record, -, interval, hinterval, limit, hlimit, hprobing⟩
  cases hprobing
  exact ⟨lt_of_defaulted64 hinterval (by decide), lt_of_defaulted32 hlimit (by decide)⟩

theorem isSized_of_readRetry? {policy : Connection.RetryPolicy}
    (h : readRetry? tree = some policy) : policy.IsSized := by
  unfold readRetry? at h
  simp only [bind, Option.bind_eq_some_iff] at h
  rcases h with ⟨record, -, initial, hinitial, most, hmost, multiplier, -, retries, hretries,
    hpolicy⟩
  cases hpolicy
  refine ⟨lt_of_defaulted64 hinitial (by decide), lt_of_defaulted64 hmost (by decide), ?_⟩
  refine Json.Record.defaulted_induction (fun retries => ∀ bound ∈ retries, bound < limit32)
    hretries (by simp) fun {tree retries} hread bound hbound => ?_
  unfold Tree.nullable? at hread
  split at hread
  · cases hread
    cases hbound
  · rcases Option.map_eq_some_iff.mp hread with ⟨count, hcount, rfl⟩
    cases hbound
    exact Tree.lt_of_nat? hcount

/-! ## The whole -/

/-- The numbers of settings fit. -/
structure IsSized (settings : Settings) : Prop where
  endpoint : settings.endpoint.IsSized
  feed : settings.feed.IsSized
  probing : settings.probing.IsSized
  timeout_lt : settings.timeout < limit64
  retry : settings.retry.IsSized
  queueWarnDepth_lt : settings.queueWarnDepth < limit64

/-- The defaults are sized. -/
theorem isSized_ofEndpoint {endpoint : Endpoint} (h : endpoint.IsSized) :
    (ofEndpoint endpoint).IsSized where
  endpoint := h
  feed := show (0 : Nat) < limit32 ∧ 30 < limit32 by decide
  probing := show 3000 < limit64 ∧ 3 < limit32 by decide
  timeout_lt := show 30000 < limit64 by decide
  retry := ⟨show 0 < limit64 by decide, show 30000 < limit64 by decide,
    fun _ hbound => nomatch hbound⟩
  queueWarnDepth_lt := show 10000 < limit64 by decide

/-- Settings in their record form are sized. -/
theorem isSized_of_tree {settings : Settings} (h : ofTree? tree = some settings) :
    settings.IsSized := by
  simp only [ofTree?, bind, Option.bind_eq_some_iff] at h
  rcases h with ⟨record, -, endpoint, hendpoint, dialect, -, encoding, -, credentials, -, account,
    -, version, -, feed, hfeed, probing, hprobing, timeout, htimeout, retry, hretry, depth, hdepth,
    hsettings⟩
  cases hsettings
  rcases Option.bind_eq_some_iff.mp hendpoint with ⟨tree, -, hread⟩
  have hdefault := isSized_ofEndpoint (isSized_of_readEndpoint? hread)
  exact {
    endpoint := hdefault.endpoint
    feed := Json.Record.defaulted_induction _ hfeed hdefault.feed isSized_of_readFeed?
    probing :=
      Json.Record.defaulted_induction _ hprobing hdefault.probing isSized_of_readProbing?
    timeout_lt := lt_of_defaulted64 htimeout hdefault.timeout_lt
    retry := Json.Record.defaulted_induction _ hretry hdefault.retry isSized_of_readRetry?
    queueWarnDepth_lt := lt_of_defaulted64 hdepth hdefault.queueWarnDepth_lt }

/-- Settings that are read are sized. -/
theorem isSized_of_parse {text : List Char} {settings : Settings}
    (h : parse text = .ok settings) : settings.IsSized := by
  unfold parse at h
  split at h <;> rename_i read hread
  · cases h
    rcases Option.bind_eq_some_iff.mp hread with ⟨tree, -, htree⟩
    exact isSized_of_tree htree
  · cases h

end Settings

end TerminalGateway
