import TerminalGateway.Proofs.System.Shift
import TerminalGateway.Simulation.Run

/-!
# Lines have nothing to do with each other

Whatever is done through one line of a hub changes that line alone, so it makes no difference to
any other.

Main definitions:

- `Line.after`, `Line.closed`: a line after something was written to it, and after its closing.

Main results:

- Theorem `Hub.write_eq`, `Hub.close_eq`: writing and closing, as changes of one line.
- Theorem `Simulation.isSeparate_link`: to close one line makes no difference to another.
-/

namespace TerminalGateway.Transport

/-- A line after something was written to it, which is lost when the terminal has let go of its
end. -/
def Line.after (line : Line) (written : Channel.Written) : Line :=
  if line.terminalHeld then { line with written := line.written ++ [written] } else line

/-- A line that the client has closed. -/
def Line.closed (line : Line) : Line :=
  { line.after .close with closing := true, writerHeld := false }

namespace Hub

variable {number other : Nat}

/-- What becomes of an attempt to write. -/
def writeResult (hub : Hub) (number : Nat) : Except SendError Unit :=
  match hub.lines[number]? with
  | some line =>
      if line.terminalHeld then .ok () else .error (.io "terminal peer is gone")
  | none => .error .notConnected

/-- Only what a change makes of the line that is there matters. -/
theorem change_congr {hub : Hub} {f g : Line → Line}
    (h : ∀ line, hub.lines[number]? = some line → f line = g line) :
    hub.change number f = hub.change number g := by
  have hlines : hub.lines.modify number f = hub.lines.modify number g := by
    refine List.ext_getElem? fun n => ?_
    rw [List.getElem?_modify, List.getElem?_modify]
    cases hline : hub.lines[n]? with
    | none => rfl
    | some line =>
        by_cases hn : number = n
        · simp [hn, h line (hn ▸ hline)]
        · simp [hn]
  simp only [change, hlines]

theorem write_eq (hub : Hub) (number : Nat) (written : Channel.Written) :
    hub.write number written =
      (hub.writeResult number, hub.change number fun line => line.after written) := by
  have hsame : hub.change number id = hub := by simp [change]
  unfold write writeResult
  cases hline : hub.lines[number]? with
  | none =>
      refine Prod.ext rfl (hsame.symm.trans (change_congr ?_))
      simp [hline]
  | some line =>
      dsimp only
      split <;> rename_i hheld
      · refine Prod.ext rfl (change_congr ?_)
        simp [hline, Line.after, hheld]
      · refine Prod.ext rfl (hsame.symm.trans (change_congr ?_))
        simp [hline, Line.after, hheld]

theorem close_eq (hub : Hub) (number : Nat) : hub.close number = hub.change number Line.closed := by
  unfold close dropWriter
  rw [write_eq]
  simp only [change, List.modify_modify_eq]
  rfl

/-- Changes of two lines come to the same in either order. -/
theorem change_change (hub : Hub) (hne : number ≠ other) (f g : Line → Line) :
    (hub.change number f).change other g = (hub.change other g).change number f := by
  simp only [change, List.modify_modify_ne f g hub.lines hne]

/-- What becomes of an attempt to write does not depend on another line. -/
theorem writeResult_change (hub : Hub) (hne : number ≠ other) (f : Line → Line) :
    (hub.change other f).writeResult number = hub.writeResult number := by
  simp only [writeResult, change, List.getElem?_modify_ne f hub.lines hne.symm]

/-- A change of one line makes no difference to what is written to another. -/
theorem write_change (hub : Hub) (hne : number ≠ other) (f : Line → Line)
    (written : Channel.Written) :
    (hub.change other f).write number written =
      ((hub.write number written).1, (hub.write number written).2.change other f) := by
  simp only [write_eq, writeResult_change hub hne, change_change hub hne.symm]

end Hub

end TerminalGateway.Transport

namespace TerminalGateway.Simulation

open TerminalGateway.Transport

/-- To close one line makes no difference to another. -/
theorem isSeparate_link : link.IsSeparate := by
  intro writer other hne
  refine ⟨fun hub text => ?_, fun hub => ?_, fun hub => ?_⟩
  · change (hub.close other).send writer text =
      ((hub.send writer text).1, (hub.send writer text).2.close other)
    simp only [Hub.close_eq, Hub.send, Hub.write_change hub hne]
  · change (hub.close other).ping writer = ((hub.ping writer).1, (hub.ping writer).2.close other)
    have hliveness : (hub.change other Line.closed).liveness = hub.liveness := rfl
    unfold Hub.ping
    rw [Hub.close_eq, hliveness]
    split
    · simp only [Hub.close_eq]
    · simp only [Hub.close_eq, Hub.write_change hub hne]
  · change (hub.close other).close writer = (hub.close writer).close other
    simp only [Hub.close_eq, Hub.change_change hub hne]

end TerminalGateway.Simulation
