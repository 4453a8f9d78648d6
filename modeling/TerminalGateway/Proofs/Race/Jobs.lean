import TerminalGateway.Proofs.System.Utterance
import TerminalGateway.Proofs.Transaction.Books

/-!
# The jobs of a gateway

Submissions do not wait for a gateway to be done with an item.  What they share with it is the
state of the connection, the writer and the pending transactions, and between any two accesses of
the gateway to these a submission may take a step.  An item is therefore taken up in jobs, each of
which goes to what is shared once at most.

A search for overdue transactions looks through the table of pending transactions part by part,
and then ends one transaction after the other.  To take a transaction from the table and to tell
its submitter is one job, as the gateway touches nothing that is shared in between.

Main definitions:

- `Job`, `Gateway.perform`: a job, and what a gateway does for it, with the jobs that come next.
- `Gateway.take`: the first job of an item, with those that are left.
- `WorkedOff`: jobs that are worked off with nothing in between.

Main results:

- Theorem `workedOff_take`: an item whose jobs are worked off with nothing in between is taken up
  as a whole.
-/

namespace TerminalGateway.Gateway

open TerminalGateway.Transaction (Completed Entry Pending)

variable {World : Type}

/-! ## Jobs -/

/-- Something that a gateway has left to do for an item. -/
inductive Job where
  /-- Texts are written, up to the first that fails. -/
  | say (texts : List String)
  /-- The writer is taken from the session, and its connection is closed next. -/
  | takeWriter
  | closeLine (writer : Nat)
  /-- The session gets no more of its number, and its end is reported. -/
  | retire (trigger : Connection.Trigger)
  /-- The caller who waits is told, or another attempt is decided on. -/
  | answerOrRetry (error : ConnectError)
  /-- Transactions that have been pending for at least `bound` nanoseconds are to be ended. -/
  | expire (bound : Nat)
  /-- These parts of the table are still to be looked through, and these overdue ones were found. -/
  | look (now bound : Nat) (shards : List (Nat → Bool)) (found : List Nat)
  /-- These transactions are still to be ended, and sinks are to be told of those that ended. -/
  | finish (ids : List Nat) (ended : List Completed)
  /-- The subscriptions have been asked for again, and the session is open. -/
  | enter
  /-- A caller who wanted the session closed is answered. -/
  | release (caller : Nat)
  /-- The caller who waits learns that the terminal refused the session. -/
  | refuse (error : AuthError)
  /-- The gateway takes up no more items. -/
  | stop

/-- The overdue transactions in one part of the table. -/
def overdue (g : Gateway World) (now bound : Nat) (shard : Nat → Bool) : List Nat :=
  (g.pending.entries.filter fun entry =>
    Pending.isOverdue now bound entry && shard entry.transactionId).map Entry.transactionId

/-- Does a job, in a table of the given parts; gives the jobs that come next. -/
def perform (link : Link World) (shards : List (Nat → Bool)) (time : Reading)
    (g : Gateway World) : Job → Gateway World × List Job
  | .say [] => (g, [])
  | .say (text :: rest) =>
      match g.send link text with
      | (.ok _, g) => (g, [.say rest])
      | (.error _, g) => (g, [])
  | .takeWriter =>
      match g.writer with
      | none => (g, [])
      | some writer => ({ g with writer := none }, [.closeLine writer])
  | .closeLine writer => (g.closeLine link writer, [])
  | .retire trigger => ({ g.nextGeneration with stage := .idle }.trigger trigger, [])
  | .answerOrRetry error =>
      match g.caller, g.life.scheduleRetry with
      | some _, _ => (g.answer (.error (.connect error)), [])
      | none, (none, life) => ({ g with life := life }, [.expire 0])
      | none, (some _, _) => (g.retry time, [])
  | .expire bound => (g, [.look time.now bound shards []])
  | .look now bound (shard :: shards) found =>
      (g, [.look now bound shards (found ++ g.overdue now bound shard)])
  | .look _ _ [] found => (g, [.finish found []])
  | .finish (id :: ids) ended =>
      match g.pending.find? id with
      | some entry =>
          let completed := entry.complete .timedOut
          ({ g with pending := g.pending.without id }.record
              (.settled completed.issuer completed.resolution),
            [.finish ids (ended ++ [completed])])
      | none => (g, [.finish ids ended])
  | .finish [] ended => (g.publishAll (ended.map fun e => .reply e.resolution.notice), [])
  | .enter => (((g.trigger .replayDone).startTicker).answer (.ok ()), [])
  | .release caller => (g.record (.released caller), [])
  | .refuse error => (g.answer (.error (.auth error)), [])
  | .stop => ({ g.answer (.error .stopped) with running := false }, [])

/-! ## Taking up items -/

/-- The jobs that take a session down. -/
def closing (g : Gateway World) : List Job :=
  [.say g.goodbye, .takeWriter, .retire .closed]

/-- A request for an end is taken up. -/
def takeEnd (g : Gateway World) : Gateway World × List Job :=
  if g.state = .disconnected then (g.nextGeneration, [.expire 0])
  else (((g.trigger .close).answer (.error .closed)).stopTasks, g.closing ++ [.expire 0])

/-- A lost connection is taken up. -/
def takeLoss (g : Gateway World) : Gateway World × List Job :=
  if g.state = .disconnected ∨ g.state = .disconnecting then (g, [])
  else
    (g.stopTasks,
      [.takeWriter, .retire .unexpectedClose, .answerOrRetry .closedDuringHandshake])

/-- A verdict on the login is taken up. -/
def takeVerdict (g : Gateway World) : Verdict → Gateway World × List Job
  | .proceed => ({ g with stage := .sessionOpen }, [])
  | .enter =>
      let g := { g with stage := .established }.trigger .sessionOpened
      let g := { g with
        life := g.life.resetRetries
        heartbeat := g.heartbeat.resetProbes }
      (g, (g.subscriptions.assets.map fun asset => .say (feedFrames g.settings asset)) ++ [.enter])
  | .refuse error =>
      ((g.trigger .authFailed).stopTasks, g.closing ++ [.expire 0, .refuse error])

/-- What the connection of the current session reports is taken up. -/
def takeReport (link : Link World) (g : Gateway World) (time : Reading) :
    Transport.Event → Gateway World × List Job
  | .opened =>
      let credentials := g.settings.credentials
      ({ g with stage := .auth },
        [.say (Command.handshake g.settings.dialect credentials.login credentials.password
          g.settings.clientVersion)])
  | .frame bytes =>
      match g.outline.core.verdict? bytes with
      | some verdict => g.countFrame.takeVerdict verdict
      | none => (g.onFrame link time bytes, [])
  | .closed _ => g.takeLoss
  | event => (g.onTransport link time event, [])

/-- The first job of an item, and the jobs that are left. -/
def takeItem (link : Link World) (g : Gateway World) (time : Reading) :
    Item → Gateway World × List Job
  | .close caller => (g.takeEnd.1, g.takeEnd.2 ++ [.release caller])
  | .shutdown => (g.takeEnd.1, g.takeEnd.2 ++ [.stop])
  | .subscribe asset sink declared =>
      let (subscribed, subscriptions) := g.subscriptions.subscribe asset sink declared
      let g := { g with subscriptions := subscriptions }
      (g, if subscribed.firstForAsset ∧ g.state = .connected then
          [.say (feedFrames g.settings asset)]
        else [])
  | .sessionReady generation writer =>
      if g.life.isCurrent generation then
        ({ g with writer := some writer }, g.writer.toList.map .closeLine)
      else (g.closeLine link writer, [])
  | .connectFailed generation error =>
      if g.life.isCurrent generation then
        ({ g with session := none, stage := .idle }.trigger .connectFailed,
          [.answerOrRetry error])
      else (g, [])
  | .transport generation event =>
      if g.life.isCurrent generation then g.takeReport link time event else (g, [])
  | .heartbeatTick generation =>
      if g.life.isCurrent generation ∧ g.state = .connected then
        if g.heartbeat.isOverdue g.settings.probing.limit then g.takeLoss
        else (g.probe link, [])
      else (g, [])
  | .expirySweep => (g, [.expire g.settings.timeoutNanos])
  | item => (g.handle link time item, [])

/-- The first job of an item, with the journal of that job alone, and the jobs that are left.  A
gateway that has stopped takes up nothing. -/
def take (link : Link World) (g : Gateway World) (time : Reading) (item : Item) :
    Gateway World × List Job :=
  if g.running then { g with journal := [] }.takeItem link time item
  else ({ g with journal := [] }, [])

/-! ## Jobs with nothing in between -/

/-- Jobs that are worked off with nothing in between, in a table of the given parts. -/
inductive WorkedOff (link : Link World) (shards : List (Nat → Bool)) (time : Reading) :
    List Job → Gateway World → Gateway World → Prop where
  | done (g : Gateway World) : WorkedOff link shards time [] g g
  | job {job : Job} {rest : List Job} {g last : Gateway World}
      (h : WorkedOff link shards time ((g.perform link shards time job).2 ++ rest)
        (g.perform link shards time job).1 last) :
      WorkedOff link shards time (job :: rest) g last

/-- A table of a single part. -/
def undivided : List (Nat → Bool) :=
  [fun _ => true]

section

variable {link : Link World} {shards : List (Nat → Bool)} {time : Reading} {rest : List Job}
  {g last : Gateway World}

theorem workedOff_say {texts : List String}
    (h : WorkedOff link shards time rest (g.sendAll link texts) last) :
    WorkedOff link shards time (.say texts :: rest) g last := by
  induction texts generalizing g with
  | nil => exact .job h
  | cons text texts ih =>
      refine .job ?_
      unfold sendAll at h
      rcases hsent : g.send link text with ⟨result, next⟩
      rw [hsent] at h
      cases result with
      | ok _ =>
          simp only [perform, hsent]
          exact ih h
      | error _ =>
          simp only [perform, hsent]
          exact h

theorem workedOff_takeWriter
    (h : WorkedOff link shards time rest (g.closeWriter link) last) :
    WorkedOff link shards time (.takeWriter :: rest) g last := by
  refine .job ?_
  unfold closeWriter at h
  cases hwriter : g.writer with
  | none =>
      simp only [hwriter] at h
      simp only [perform, hwriter]
      exact h
  | some writer =>
      simp only [hwriter] at h
      simp only [perform, hwriter]
      exact .job h

/-- The market data of an asset is asked for by its texts. -/
theorem requestFeed_eq (link : Link World) (g : Gateway World) (asset : Asset) :
    g.requestFeed link asset = g.sendAll link (feedFrames g.settings asset) := by
  unfold requestFeed feedFrames
  cases Command.feedRequest g.settings.dialect asset g.settings.feed.period
    g.settings.feed.depth <;> rfl

/-- The market data of several assets is asked for, asset by asset. -/
theorem workedOff_says {settings : Settings} {assets : List Asset} (hsettings : g.settings = settings)
    (h : WorkedOff link shards time rest
      (assets.foldl (fun g asset => g.requestFeed link asset) g) last) :
    WorkedOff link shards time
      ((assets.map fun asset => .say (feedFrames settings asset)) ++ rest) g last := by
  induction assets generalizing g with
  | nil => exact h
  | cons asset assets ih =>
      refine workedOff_say (ih ?_ ?_)
      · exact (sends_sendAll link g _).kept.2.1.trans hsettings
      · rw [← hsettings, ← requestFeed_eq]
        exact h

end

/-! ## Overdue transactions -/

section

variable {link : Link World} {time : Reading} {rest : List Job} {last : Gateway World}

/-- The gateway after some transactions were ended, before sinks are told. -/
def settledAll (g : Gateway World) (entries : List Entry) : Gateway World :=
  { g with
    pending := { g.pending with
      entries := g.pending.entries.filter fun entry =>
        entry.transactionId ∉ entries.map Entry.transactionId }
    journal := g.journal ++ entries.map fun entry =>
      Effect.settled (entry.complete .timedOut).issuer (entry.complete .timedOut).resolution }

theorem settledAll_nil (g : Gateway World) : g.settledAll [] = g := by
  simp [settledAll]

theorem settledAll_cons (g : Gateway World) (entry : Entry) (entries : List Entry) :
    g.settledAll (entry :: entries) =
      ({ g with pending := g.pending.without entry.transactionId }.record
        (.settled (entry.complete .timedOut).issuer
          (entry.complete .timedOut).resolution)).settledAll entries := by
  have hleft : (g.pending.entries.filter fun other =>
        other.transactionId ∉ (entry :: entries).map Entry.transactionId) =
      (g.pending.without entry.transactionId).entries.filter fun other =>
        other.transactionId ∉ entries.map Entry.transactionId := by
    rw [Pending.without, List.filter_filter]
    refine List.filter_congr fun other _ => ?_
    rw [List.map_cons, ← Bool.decide_and]
    exact decide_eq_decide.mpr (by rw [List.mem_cons, not_or, and_comm])
  unfold settledAll
  rw [hleft]
  simp only [record, Pending.without, List.map_cons, List.append_assoc, List.singleton_append]

/-- Pending transactions are ended one after the other. -/
theorem workedOff_finish {entries : List Entry} {ended : List Completed} {g : Gateway World}
    (htidy : g.pending.IsTidy) (hpending : ∀ entry ∈ entries, entry ∈ g.pending.entries)
    (hnodup : (entries.map Entry.transactionId).Nodup)
    (h : WorkedOff link undivided time rest
      ((g.settledAll entries).publishAll
        ((ended ++ entries.map fun entry => entry.complete .timedOut).map
          fun e => .reply e.resolution.notice)) last) :
    WorkedOff link undivided time
      (.finish (entries.map Entry.transactionId) ended :: rest) g last := by
  induction entries generalizing g ended with
  | nil =>
      rw [settledAll_nil, List.map_nil, List.append_nil] at h
      exact .job h
  | cons entry entries ih =>
      rw [List.map_cons, List.nodup_cons] at hnodup
      have hfound : g.pending.find? entry.transactionId = some entry :=
        htidy.find?_of_mem (hpending entry List.mem_cons_self)
      refine .job ?_
      simp only [List.map_cons, perform, hfound]
      refine ih (htidy.without _) (fun other hother => ?_) hnodup.2 ?_
      · have hne : other.transactionId ≠ entry.transactionId :=
          fun hsame => hnodup.1 (hsame ▸ List.mem_map_of_mem hother)
        exact List.mem_filter.mpr
          ⟨hpending other (List.mem_cons_of_mem _ hother), decide_eq_true hne⟩
      · rw [settledAll_cons, List.map_cons, List.append_cons] at h
        exact h

/-- A search through an undivided table ends what is overdue. -/
theorem workedOff_expire {bound : Nat} {g : Gateway World} (htidy : g.pending.IsTidy)
    (h : WorkedOff link undivided time rest (g.expire time bound) last) :
    WorkedOff link undivided time (.expire bound :: rest) g last := by
  have hfound : g.overdue time.now bound (fun _ => true) =
      (g.pending.entries.filter (Pending.isOverdue time.now bound)).map Entry.transactionId := by
    simp [overdue]
  have hleft : (g.pending.entries.filter fun entry => entry.transactionId ∉
        (g.pending.entries.filter (Pending.isOverdue time.now bound)).map Entry.transactionId) =
      g.pending.entries.filter fun entry => !Pending.isOverdue time.now bound entry := by
    refine List.filter_congr fun entry hentry => ?_
    have hsame : ∀ other ∈ g.pending.entries, other.transactionId = entry.transactionId →
        other = entry := fun other hother => List.inj_on_of_nodup_map htidy hother hentry
    by_cases hoverdue : Pending.isOverdue time.now bound entry = true
    · have hmem : entry.transactionId ∈ (g.pending.entries.filter
          (Pending.isOverdue time.now bound)).map Entry.transactionId :=
        List.mem_map_of_mem (List.mem_filter.mpr ⟨hentry, hoverdue⟩)
      simp only [hmem, hoverdue, not_true_eq_false, decide_false, Bool.not_true]
    · have hnotMem : entry.transactionId ∉ (g.pending.entries.filter
          (Pending.isOverdue time.now bound)).map Entry.transactionId := by
        intro hmem
        rcases List.mem_map.mp hmem with ⟨other, hother, hid⟩
        rcases List.mem_filter.mp hother with ⟨hpending, hother⟩
        exact hoverdue (hsame other hpending hid ▸ hother)
      simp [hnotMem, hoverdue]
  have hexpire : g.expire time bound =
      (g.settledAll (g.pending.entries.filter (Pending.isOverdue time.now bound))).publishAll
        ((g.pending.entries.filter (Pending.isOverdue time.now bound)).map
          fun entry => .reply (entry.complete .timedOut).resolution.notice) := by
    simp only [expire, Pending.expire, settledAll, hleft, List.map_map]
    rfl
  have hfinish : WorkedOff link undivided time
      (.finish (g.overdue time.now bound fun _ => true) [] :: rest) g last := by
    rw [hfound]
    refine workedOff_finish htidy (fun entry hentry => List.mem_of_mem_filter hentry) ?_ ?_
    · exact htidy.sublist (List.filter_sublist.map _)
    · rw [hexpire] at h
      rw [List.nil_append, List.map_map]
      exact h
  exact .job (.job (.job hfinish))

/-! ## Items -/

theorem tidy_of_books {g next : Gateway World} (htidy : g.pending.IsTidy)
    (hbooks : next.books = g.books) : next.pending.IsTidy := by
  have hpending : next.pending = g.pending := congrArg Books.pending hbooks
  exact hpending ▸ htidy

theorem workedOff_answerOrRetry {error : ConnectError} {g : Gateway World}
    (htidy : g.pending.IsTidy)
    (h : WorkedOff link undivided time rest (g.answerOrRetry time error) last) :
    WorkedOff link undivided time (.answerOrRetry error :: rest) g last := by
  refine .job ?_
  unfold answerOrRetry at h
  cases hcaller : g.caller with
  | some caller =>
      simp only [hcaller] at h
      simp only [perform, hcaller]
      exact h
  | none =>
      simp only [hcaller] at h
      rcases hretry : g.life.scheduleRetry with ⟨delay, life⟩
      cases delay with
      | none =>
          simp only [retry, hretry, hcaller] at h
          simp only [perform, hcaller, hretry]
          exact workedOff_expire htidy h
      | some delay =>
          simp only [perform, hcaller, hretry]
          exact h

/-- What a gateway says goodbye with depends on its stage and its settings. -/
theorem goodbye_congr {g next : Gateway World}
    (hstage : next.outline.core.stage = g.outline.core.stage)
    (hsettings : next.outline.core.settings = g.outline.core.settings) :
    next.goodbye = g.goodbye := by
  have hstage : next.stage = g.stage := hstage
  have hsettings : next.settings = g.settings := hsettings
  unfold goodbye
  rw [hstage, hsettings]

/-- The session is taken down job by job. -/
theorem workedOff_closing {shards : List (Nat → Bool)} {g next : Gateway World}
    (hgoodbye : next.goodbye = g.goodbye)
    (h : WorkedOff link shards time rest ((next.closeSession link).trigger .closed) last) :
    WorkedOff link shards time (g.closing ++ rest) next.stopTasks last := by
  have hstopped : next.stopTasks.goodbye = next.goodbye := goodbye_congr (by simp) (by simp)
  have hsaid : next.stopTasks.sendAll link g.goodbye = next.stopTasks.sayGoodbye link := by
    rw [← hgoodbye, ← hstopped]
    unfold goodbye sayGoodbye
    split <;> rfl
  refine workedOff_say ?_
  rw [hsaid]
  exact workedOff_takeWriter (.job h)

/-- A request for an end is taken up job by job. -/
theorem workedOff_takeEnd {g : Gateway World} (htidy : g.pending.IsTidy)
    (h : WorkedOff link undivided time rest (g.shut link time) last) :
    WorkedOff link undivided time (g.takeEnd.2 ++ rest) g.takeEnd.1 last := by
  have hexpire : WorkedOff link undivided time (.expire 0 :: rest) (g.disconnect link) last :=
    workedOff_expire (tidy_of_books htidy (books_disconnect link g)) h
  unfold disconnect at hexpire
  unfold takeEnd
  split <;> rename_i hstate
  · rw [if_pos hstate] at hexpire
    exact hexpire
  · rw [if_neg hstate] at hexpire
    rw [List.append_assoc]
    exact workedOff_closing (goodbye_congr (by simp) (by simp)) hexpire

/-- A lost connection is taken up job by job. -/
theorem workedOff_takeLoss {g : Gateway World} (htidy : g.pending.IsTidy) :
    WorkedOff link undivided time g.takeLoss.2 g.takeLoss.1 (g.onLost link time) := by
  unfold takeLoss onLost
  split
  · exact .done g
  · refine workedOff_takeWriter (.job (workedOff_answerOrRetry ?_ (.done _)))
    refine tidy_of_books htidy ((books_trigger _ _).trans ?_)
    exact (books_closeWriter link g.stopTasks).trans (books_stopTasks g)

/-- A verdict on the login is taken up job by job. -/
theorem workedOff_takeVerdict {g : Gateway World} (htidy : g.pending.IsTidy)
    (verdict : Verdict) :
    WorkedOff link undivided time (g.takeVerdict verdict).2 (g.takeVerdict verdict).1
      (g.onVerdict link time verdict) := by
  cases verdict with
  | proceed => exact .done _
  | enter => exact workedOff_says rfl (.job (.done _))
  | refuse error =>
      refine workedOff_closing
        (goodbye_congr (by simp) (by simp)) (workedOff_expire ?_ (.job (.done _)))
      exact tidy_of_books htidy (by simp)

/-- What the connection reports is taken up job by job. -/
theorem workedOff_takeReport {g : Gateway World} (htidy : g.pending.IsTidy)
    (event : Transport.Event) :
    WorkedOff link undivided time (g.takeReport link time event).2
      (g.takeReport link time event).1 (g.onTransport link time event) := by
  cases event with
  | opened => exact workedOff_say (.done _)
  | frame bytes =>
      simp only [takeReport, onTransport]
      cases hverdict : g.outline.core.verdict? bytes with
      | none => exact .done _
      | some verdict =>
          rw [System.onFrame_of_verdict? link time hverdict]
          exact workedOff_takeVerdict (g := g.countFrame) htidy verdict
  | error text => exact .done _
  | closed reason => exact workedOff_takeLoss htidy
  | pong => exact .done _

/-- An item is taken up job by job. -/
theorem workedOff_takeItem {g : Gateway World} (htidy : g.pending.IsTidy) (item : Item) :
    WorkedOff link undivided time (g.takeItem link time item).2 (g.takeItem link time item).1
      (g.handle link time item) := by
  cases item with
  | close caller => exact workedOff_takeEnd htidy (.job (.done _))
  | shutdown => exact workedOff_takeEnd htidy (.job (.done _))
  | subscribe asset sink declared =>
      simp only [takeItem, handle, onSubscribe]
      split_ifs
      · rw [requestFeed_eq]
        exact workedOff_say (.done _)
      · exact .done _
  | sessionReady generation writer =>
      simp only [takeItem, handle, onSessionReady, installWriter]
      split
      · cases g.writer with
        | none => exact .done _
        | some previous => exact .job (.done _)
      · exact .done _
  | connectFailed generation error =>
      simp only [takeItem, handle]
      split
      · exact workedOff_answerOrRetry (tidy_of_books htidy (books_trigger _ _)) (.done _)
      · exact .done g
  | transport generation event =>
      simp only [takeItem, handle]
      split
      · exact workedOff_takeReport htidy event
      · exact .done g
  | heartbeatTick generation =>
      simp only [takeItem, handle, onTick]
      split
      · split
        · exact workedOff_takeLoss htidy
        · exact .done _
      · exact .done g
  | expirySweep => exact workedOff_expire htidy (.done _)
  | _ => exact .done _

/-- An item whose jobs are worked off with nothing in between, in an undivided table, is taken up
as a whole. -/
theorem workedOff_take {g : Gateway World} (htidy : g.pending.IsTidy) (item : Item) :
    WorkedOff link undivided time (g.take link time item).2 (g.take link time item).1
      (g.step link time item) := by
  unfold take Gateway.step
  split
  · exact workedOff_takeItem (g := { g with journal := [] }) htidy item
  · exact .done _

end

end TerminalGateway.Gateway
