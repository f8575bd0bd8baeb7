import UdpipBroadcaster.Configuration
import UdpipBroadcaster.UdpEvents
import UdpipBroadcaster.CbUdpEvents

/-!
# `main.c`
-/

namespace UdpipBroadcaster

/-- `create_configuration` in the process.  The result of the `malloc` in
`new_configuration` is not checked. -/
def loadConfiguration (platform : Platform) (opts : List Opt) :
    Program Configuration := do
  if ← callFails platform then
    throw .segmentationFault
  match createConfiguration opts with
  | .error reason => throw reason
  | .ok settings => do
      modify fun world => { world with verbose := settings.verbose }
      pure settings.cfg

/-- The two managers of the relay mode of `main`, for the network and for
the application. -/
def startRelay (platform : Platform) (cfg : Configuration) :
    Program (UdpEvents × UdpEvents) := do
  let netEvents ←
    initNetUdpEvents platform cfg.rxPort cfg.ifName.text cfg.appAddress
      cfg.appTxPort cfg.necMode (some .cbForwardRecvfrom)
  let appEvents ←
    initAppUdpEvents platform cfg.appRxPort cfg.ifName.text cfg.txPort
      (some .cbBroadcastRecvfrom)
  pure (netEvents, appEvents)

/-- `main` up to the call of `ev_loop`; the result is the loop that is
entered. -/
def main (platform : Platform) (opts : List Opt) :
    Program (Option EvLoop) := do
  let cfg ← loadConfiguration platform opts
  if cfg.txTest = true then
    let _netEvents ←
      initTxUdpEvents platform cfg.ifName.text cfg.txPort
        (some .cbBroadcastSendto) true
    let appEvents : Option UdpEvents := none
    pure (← deref appEvents).loop
  else
    let (_netEvents, appEvents) ← startRelay platform cfg
    let appEvents := some appEvents
    pure (← deref appEvents).loop

end UdpipBroadcaster
