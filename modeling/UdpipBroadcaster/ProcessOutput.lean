import UdpipBroadcaster.ConsoleLog
import UdpipBroadcaster.StartupText

/-!
# The output of a whole process

A relay from its start on, with everything that it writes.  A verbose relay
tells its settings and then every payload that it passes on, and the text
can be cut anywhere behind the start.
-/

namespace UdpipBroadcaster

open Outputs PrintedTexts Programs

/-- `main` with `ev_loop`, on a finite sequence of events. -/
def Session.process
    (signed : Bool) (platform : Platform) (opts : List Opt)
    (events : List Event) : Session Unit := do
  let _loop ← main platform opts
  evLoop signed platform events

/-- Lines that tell nothing of a payload. -/
def IsPlainText (text : List UInt8) : Prop :=
  ∃ lines, linesText lines = text ∧ ∀ line ∈ lines, IsPlainLine line

theorem IsPlainText.append
    {text more : List UInt8} (plain : IsPlainText text)
    (plainMore : IsPlainText more) : IsPlainText (text ++ more) := by
  rcases plain with ⟨lines, rfl, each⟩
  rcases plainMore with ⟨others, rfl, eachOther⟩
  refine ⟨lines ++ others, linesText_append lines others, ?_⟩
  intro line member
  rcases List.mem_append.mp member with first | second
  · exact each line first
  · exact eachOther line second

variable {platform : Platform} {ifName : CString} {pointer : Nat}

variable {opts : List Opt} {events : List Event} {settings : Settings}
  {last : World} {text : List UInt8}

end UdpipBroadcaster
