import TerminalGateway.Proofs.CommandLine.Start
import TerminalGateway.Proofs.Settings.Sizes
import TerminalGateway.Proofs.System.Tickers
import TerminalGateway.Simulation.SocketWire

/-!
# What accepted settings are fit for

Settings are accepted from a text, or from a file after the environment's credentials were put into
them.  Whatever was given and whatever was left to its default, all that is built of them can be
built: both ends of the stream are cut at something, the timers have periods that are neither zero
nor too long, and a login that the terminal asks for is there.

Main definitions:

- `Settings.IsAccepted`: settings that were read and checked.
- `Settings.IsReady`: what is built of settings can be built.

Main results:

- Theorem `Settings.fault?_eq_none_iff`: what the check looks at.
- Theorem `Settings.isReady_of_accepted`: accepted settings are ready.
-/

namespace TerminalGateway.Settings

open TerminalGateway.CommandLine (Runner)
open TerminalGateway.Gateway (Effect Link)
open TerminalGateway.Number (limit64)
open TerminalGateway.Simulation (SocketWire)

variable {settings : Settings}

/-- Settings that were read from a text, or from a file and completed with credentials from the
environment, and then checked. -/
def IsAccepted (settings : Settings) : Prop :=
  (∃ text, ofText text = .ok settings) ∨
    ∃ bytes login password, ofFile bytes login password = .ok settings

/-! ## What was checked -/

/-- Nothing is wrong with settings just if nothing is wrong with any of these parts. -/
theorem fault?_eq_none_iff (settings : Settings) :
    settings.fault? = none ↔ endpointFault? settings.endpoint = none ∧
      (settings.dialect = .web → settings.credentials.login ≠ "") ∧
      settings.probing.interval ≠ 0 ∧ settings.timeout ≠ 0 ∧
      settings.retry.multiplier.lt .one = false := by
  unfold fault?
  cases endpointFault? settings.endpoint with
  | some fault => simp
  | none =>
      split
      · simp_all
      · split
        · simp_all
        · split
          · simp_all
          · split <;> simp_all

/-- The environment has a say in the credentials alone. -/
theorem IsSized.withEnvironment (h : settings.IsSized) (login password : Option String) :
    (settings.withEnvironment login password).IsSized :=
  ⟨h.endpoint, h.feed, h.probing, h.timeout_lt, h.retry, h.queueWarnDepth_lt⟩

/-- Accepted settings have no fault, and their numbers fit. -/
theorem IsAccepted.sound (h : settings.IsAccepted) :
    settings.fault? = none ∧ settings.IsSized := by
  rcases h with ⟨text, htext⟩ | ⟨bytes, login, password, hfile⟩
  · unfold ofText at htext
    cases hparse : parse text with
    | error error => simp [hparse, bind, Except.bind] at htext
    | ok read =>
        simp only [hparse, bind, Except.bind] at htext
        obtain ⟨hfault, rfl⟩ := (validate_eq_ok_iff _ _).mp htext
        exact ⟨hfault, isSized_of_parse hparse⟩
  · refine ⟨fault?_of_ofFile hfile, ?_⟩
    unfold ofFile at hfile
    cases htext : Text.Utf8.decode bytes with
    | error fault => simp [htext] at hfile
    | ok text =>
        cases hparse : parse text with
        | error error => simp [htext, hparse, bind, Except.bind] at hfile
        | ok read =>
            simp only [htext, hparse, bind, Except.bind] at hfile
            obtain ⟨-, rfl⟩ := (validate_eq_ok_iff _ _).mp hfile
            exact (isSized_of_parse hparse).withEnvironment login password

/-! ## What is built -/

/-- A socket whose endpoint is sound can be connected, with a stream to each side. -/
theorem exists_connect {address delimiter : String} {maxLength : Nat}
    (hsound : endpointFault? (.socket address delimiter maxLength) = none)
    (encoding : Text.Encoding) :
    ∃ wire, SocketWire.connect (Text.Utf8.encode delimiter.toList) encoding maxLength =
      .ok wire := by
  have hbytes := CommandLine.encode_ne_nil (CommandLine.framing_ne_empty hsound)
  simp only [Runner.framing] at hbytes
  simp [SocketWire.connect, Frame.Splitter.ofDelimiter, hbytes, bind, Except.bind, pure,
    Except.pure]

theorem ofMillis_pos {count : Nat} (h : count ≠ 0) : 0 < Duration.ofMillis count :=
  Nat.mul_pos (Nat.pos_of_ne_zero h) (by decide)

theorem ofMillis_lt {count limit : Nat} (h : count < limit) :
    Duration.ofMillis count < Duration.ofMillis limit :=
  Nat.mul_lt_mul_of_pos_right h (by decide)

/-- All that is built of settings can be built. -/
structure IsReady (settings : Settings) : Prop where
  /-- The streams to both sides of a socket are cut at some bytes. -/
  connect : ∀ address delimiter maxLength,
    settings.endpoint = .socket address delimiter maxLength →
      Text.Utf8.encode delimiter.toList ≠ [] ∧
        ∃ wire, SocketWire.connect (Text.Utf8.encode delimiter.toList) settings.encoding
          maxLength = .ok wire
  /-- The program's own gateway comes up. -/
  start : ∃ runner, Runner.start settings = .ok runner
  probeInterval_pos : 0 < settings.probeInterval
  /-- Every ticker that is started in any run has a period. -/
  tickers : ∀ (World : Type) (link : Link World) (world : World) (turns : List System.Turn)
    (last : System World), (System.start settings world).run? link turns = some last →
      ∀ generation interval, Effect.startTicker generation interval ∈ last.log →
        0 < interval ∧ interval < Duration.ofMillis limit64
  sweepInterval_pos : 0 < settings.sweepInterval
  sweepInterval_ge : Duration.ofMillis 50 ≤ settings.sweepInterval
  sweepInterval_le : settings.sweepInterval ≤ max (Duration.ofMillis 50) (settings.timeoutNanos / 4)
  sweepInterval_lt : settings.sweepInterval < Duration.ofMillis limit64
  /-- A terminal that asks for a login gets one. -/
  login_ne : settings.dialect = .web → settings.credentials.login ≠ ""

/-- Accepted settings are ready: everything can be built and every timer started, with any of the
settings given or left to their defaults, and with any credentials from the environment. -/
theorem isReady_of_accepted (haccepted : settings.IsAccepted) : settings.IsReady := by
  rcases haccepted.sound with ⟨hfault, hsized⟩
  rcases (fault?_eq_none_iff settings).mp hfault with ⟨hendpoint, hlogin, hinterval, -, -⟩
  have hframing := CommandLine.framing_ne_empty hendpoint
  have hprobe : 0 < settings.probeInterval := ofMillis_pos hinterval
  have hleast : Duration.ofMillis 50 ≤ settings.sweepInterval := Nat.le_max_right ..
  have hquarter : settings.timeoutNanos / 4 < Duration.ofMillis limit64 :=
    Nat.lt_of_le_of_lt (Nat.div_le_self _ _) (ofMillis_lt hsized.timeout_lt)
  exact {
    connect := by
      intro address delimiter maxLength heq
      rw [heq] at hendpoint hframing
      exact ⟨CommandLine.encode_ne_nil hframing, exists_connect hendpoint settings.encoding⟩
    start := CommandLine.start_eq_ok hframing
    probeInterval_pos := hprobe
    tickers := by
      intro World link world turns last hrun generation interval hmem
      obtain rfl := (System.tickers_of_run hrun).tickers generation interval hmem
      exact ⟨hprobe, ofMillis_lt hsized.probing.1⟩
    sweepInterval_pos := Nat.lt_of_lt_of_le (ofMillis_pos (by decide)) hleast
    sweepInterval_ge := hleast
    sweepInterval_le := Nat.le_of_eq (Nat.max_comm ..)
    sweepInterval_lt := Nat.max_lt.mpr ⟨hquarter, ofMillis_lt (by decide)⟩
    login_ne := hlogin }

/-- A socket at which one has to log in: its file leaves the login to the environment, and has
transactions wait for a short time only. -/
theorem isReady_of_accepted_socket :
    let text := "\x7b\"dialect\": \"web_quik\", \"transaction_timeout_ms\": 7, \"transport\": " ++
      "\x7b\"kind\": \"tcp\", \"address\": \"h:1\"\x7d\x7d"
    let settings : Settings :=
      { ofEndpoint (.socket "h:1" Frame.defaultDelimiter Frame.defaultMaxLength) with
        dialect? := some .web
        credentials := { login := "U1" }
        timeout := 7 }
    ofFile (Text.Utf8.encode text.toList) (some "U1") none = .ok settings ∧
      settings.sweepInterval = Duration.ofMillis 50 ∧ settings.IsReady := by
  intro text settings
  have hfile : ofFile (Text.Utf8.encode text.toList) (some "U1") none = .ok settings := by
    decide +kernel
  exact ⟨hfile, by decide, isReady_of_accepted (.inr ⟨_, _, _, hfile⟩)⟩

end TerminalGateway.Settings
