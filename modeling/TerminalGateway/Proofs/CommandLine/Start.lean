import TerminalGateway.CommandLine.Runner

/-!
# Settings the program starts with

The program takes its settings from a file or, without one, from what it knows of the
demonstration server, and puts the login and the password of the environment into either.
Settings of a file are checked after that.  Those of the demonstration server are not checked
again, so an empty login in the environment gets past the check, and nothing else does.

Main definitions:

- `CommandLine.Starts`: what the program starts its gateway with.

Main results:

- Theorem `CommandLine.validate_of_starts`: when the settings in effect can be used, and that a
  gateway comes up with them in any case.
- Theorem `CommandLine.starts_without_login`: a start with settings that cannot be used.
-/

namespace TerminalGateway

namespace Settings

theorem validate_eq_ok_iff (s t : Settings) : s.validate = .ok t ↔ s.fault? = none ∧ t = s := by
  unfold validate
  cases hfault : s.fault? with
  | some fault => simp
  | none => simp [eq_comm]

/-- Settings that a file gives have passed the check, the environment's credentials included. -/
theorem fault?_of_ofFile {bytes : List UInt8} {login password : Option String}
    {settings : Settings} (hfile : ofFile bytes login password = .ok settings) :
    settings.fault? = none := by
  unfold ofFile at hfile
  cases htext : Text.Utf8.decode bytes with
  | error fault => simp [htext] at hfile
  | ok text =>
      cases hparse : parse text with
      | error error => simp [htext, hparse, bind, Except.bind] at hfile
      | ok read =>
          simp only [htext, hparse, bind, Except.bind] at hfile
          obtain ⟨hfault, rfl⟩ := (validate_eq_ok_iff _ _).mp hfile
          exact hfault

theorem dialect_withEnvironment (s : Settings) (login password : Option String) :
    (s.withEnvironment login password).dialect = s.dialect :=
  rfl

/-- Of the settings of the demonstration server the environment can spoil the login alone. -/
theorem fault?_demonstration (login password : Option String) :
    (demonstration.withEnvironment login password).fault? =
      if login = some "" then some "credentials.login is required" else none := by
  have hendpoint : endpointFault? demonstration.endpoint = none := by decide +kernel
  have hretry : demonstration.retry.multiplier.lt .one = false := by decide +kernel
  have hlogin : login.getD demonstration.credentials.login = "" ↔ login = some "" := by
    cases login <;> simp [demonstration]
  have hdialect : demonstration.dialect = .web := rfl
  have hinterval : demonstration.probing.interval ≠ 0 := by decide
  have htimeout : demonstration.timeout ≠ 0 := by decide
  rw [fault?, dialect_withEnvironment, hdialect]
  simp only [withEnvironment, withCredentials, hendpoint, hretry, hlogin, hinterval, htimeout,
    true_and, if_false, Bool.false_eq_true]

/-- Nothing is wrong with the endpoint of settings without a fault. -/
theorem endpointFault?_of_fault? {settings : Settings} (hfault : settings.fault? = none) :
    endpointFault? settings.endpoint = none := by
  cases hendpoint : endpointFault? settings.endpoint with
  | none => rfl
  | some fault => simp [fault?, hendpoint] at hfault

end Settings

namespace CommandLine

open TerminalGateway.Frame (Splitter)

/-! ## Coming up -/

theorem encode_ne_nil {text : String} (htext : text ≠ "") :
    Text.Utf8.encode text.toList ≠ [] := by
  cases hlist : text.toList with
  | nil => exact absurd (String.toList_eq_nil_iff.mp hlist) htext
  | cons c rest =>
      intro hnil
      have hlength := String.length_utf8EncodeChar c
      rw [(List.append_eq_nil_iff.mp hnil).1] at hlength
      exact absurd hlength.symm (Nat.ne_of_gt c.utf8Size_pos)

/-- A stream whose endpoint is sound is not cut at nothing. -/
theorem framing_ne_empty {endpoint : Endpoint}
    (hendpoint : Settings.endpointFault? endpoint = none) :
    (Runner.framing endpoint).1 ≠ "" := by
  cases endpoint with
  | webSocket url => exact show Frame.defaultDelimiter ≠ "" by decide
  | socket address delimiter maxLength =>
      intro hempty
      replace hempty : delimiter = "" := hempty
      by_cases haddress : address = "" <;>
        simp [Settings.endpointFault?, haddress, hempty] at hendpoint

/-- A gateway comes up if its stream is not cut at nothing. -/
theorem start_eq_ok {settings : Settings} (hframing : (Runner.framing settings.endpoint).1 ≠ "") :
    ∃ runner, Runner.start settings = .ok runner := by
  have hbytes := encode_ne_nil hframing
  simp [Runner.start, Splitter.ofDelimiter, hbytes, bind, Except.bind, pure, Except.pure]

/-! ## The start -/

/-- The program, given arguments, starts its gateway for this plan with these settings.  `files`
holds the bytes of each file that can be read; `login` and `password` are those of the
environment. -/
def Starts (files : String → Option (List UInt8)) (login password : Option String)
    (arguments : List String) (plan : Plan) (settings : Settings) : Prop :=
  Plan.ofArguments arguments = .ok plan ∧
    plan.settings (plan.path.bind files) login password = .ok settings

/-- Results are told apart by what they hold. -/
instance decidableEqResult {ε α : Type} [DecidableEq ε] [DecidableEq α] :
    DecidableEq (Except ε α)
  | .ok a, .ok b => decidable_of_iff (a = b) ⟨congrArg Except.ok, Except.ok.inj⟩
  | .error e, .error f => decidable_of_iff (e = f) ⟨congrArg Except.error, Except.error.inj⟩
  | .ok _, .error _ => isFalse nofun
  | .error _, .ok _ => isFalse nofun

instance (files : String → Option (List UInt8)) (login password : Option String)
    (arguments : List String) (plan : Plan) (settings : Settings) :
    Decidable (Starts files login password arguments plan settings) :=
  inferInstanceAs (Decidable (_ ∧ _))

variable {files : String → Option (List UInt8)} {login password : Option String}
  {arguments : List String} {plan : Plan} {settings : Settings}

/-- Without a file the settings are those of the demonstration server with the environment's
credentials. -/
theorem Starts.of_path_none (hstart : Starts files login password arguments plan settings)
    (hpath : plan.path = none) :
    settings = Settings.demonstration.withEnvironment login password := by
  have hsettings := hstart.2
  simp only [Plan.settings, hpath] at hsettings
  exact (Except.ok.inj hsettings).symm

/-- Settings of a file have passed the check. -/
theorem Starts.of_path_some (hstart : Starts files login password arguments plan settings)
    {path : String} (hpath : plan.path = some path) : settings.fault? = none := by
  have hsettings := hstart.2
  simp only [Plan.settings, hpath, Option.bind_some] at hsettings
  cases hfile : files path with
  | none => simp [hfile] at hsettings
  | some bytes =>
      cases hread : Settings.ofFile bytes login password with
      | error error =>
          simp only [hfile, hread] at hsettings
          exact nomatch hsettings
      | ok read =>
          simp only [hfile, hread] at hsettings
          exact Except.ok.inj hsettings ▸ Settings.fault?_of_ofFile hread

/-- The one fault that settings in effect can have. -/
theorem Starts.fault? (hstart : Starts files login password arguments plan settings) :
    settings.fault? = if plan.path = none ∧ login = some "" then
      some "credentials.login is required" else none := by
  cases hpath : plan.path with
  | none =>
      rw [hstart.of_path_none hpath, Settings.fault?_demonstration]
      simp
  | some path =>
      rw [hstart.of_path_some hpath]
      simp

/-- Settings in effect can be used, unless they are those of the demonstration server and the
environment has the login empty; a gateway comes up with them in any case. -/
theorem validate_of_starts (hstart : Starts files login password arguments plan settings) :
    settings.validate = (if plan.path = none ∧ login = some "" then
        .error (.invalid "credentials.login is required") else .ok settings) ∧
      ∃ runner, Runner.start settings = .ok runner := by
  constructor
  · unfold Settings.validate
    rw [hstart.fault?]
    split <;> simp_all
  · apply start_eq_ok
    cases hpath : plan.path with
    | none =>
        rw [hstart.of_path_none hpath]
        exact show (Runner.framing Settings.demonstration.endpoint).1 ≠ "" by decide +kernel
    | some path =>
        exact framing_ne_empty (Settings.endpointFault?_of_fault? (hstart.of_path_some hpath))

/-- A file that names a socket and nothing else, read with an empty login in the environment: its
settings can be used, and the gateway comes up. -/
theorem validate_of_starts_socket :
    let text := "\x7b\"transport\": \x7b\"kind\": \"tcp\", \"address\": \"h:1\"\x7d\x7d"
    let settings := Settings.ofEndpoint
      (.socket "h:1" Frame.defaultDelimiter Frame.defaultMaxLength)
    Starts (fun _ => some (Text.Utf8.encode text.toList)) (some "") none ["--config", "lua.json"]
        ⟨some "lua.json", []⟩ settings ∧
      settings.validate = .ok settings ∧ ∃ runner, Runner.start settings = .ok runner := by
  intro text settings
  have hstart : Starts (fun _ => some (Text.Utf8.encode text.toList)) (some "") none
      ["--config", "lua.json"] ⟨some "lua.json", []⟩ settings := by
    decide +kernel
  exact ⟨hstart, validate_of_starts hstart⟩

/-- Started without a file and with an empty login in the environment, the program's gateway comes
up with settings that cannot be used. -/
theorem starts_without_login :
    ∃ settings runner,
      Starts (fun _ => none) (some "") none ["--asset", "QJSIM/SBER"]
          ⟨none, [.instrument "QJSIM" "SBER"]⟩ settings ∧
        Runner.start settings = .ok runner ∧
        settings.validate = .error (.invalid "credentials.login is required") := by
  have hstart : Starts (fun _ => none) (some "") none ["--asset", "QJSIM/SBER"]
      ⟨none, [.instrument "QJSIM" "SBER"]⟩
      (Settings.demonstration.withEnvironment (some "") none) := by
    decide +kernel
  have hframing : (Runner.framing
      (Settings.demonstration.withEnvironment (some "") none).endpoint).1 ≠ "" := by
    decide +kernel
  rcases start_eq_ok hframing with ⟨runner, hrunner⟩
  exact ⟨_, runner, hstart, hrunner, by decide +kernel⟩

end CommandLine

end TerminalGateway
