import UdpipBroadcaster.Structures
import UdpipBroadcaster.Process

/-!
# `configuration.c`

The command line is the sequence of options that `getopt_long` returns, each
with its argument.
-/

namespace UdpipBroadcaster

/-- An option as `getopt_long` returns it. -/
inductive Opt where
  | nettx (optarg : CString)
  | netrx (optarg : CString)
  | appaddr (optarg : CString)
  | apptx (optarg : CString)
  | apprx (optarg : CString)
  | txtest
  | ifname (optarg : CString)
  | nec
  | verbose
  | version
  | help
  | unrecognised
  deriving DecidableEq

/-- `configuration_t` -/
structure Configuration where
  appTxPort : Int
  appRxPort : Int
  appAddress : Option CString
  appInetAddr : UInt32
  txPort : Int
  rxPort : Int
  ifName : CharArray (ifNamesize + 1)
  necMode : Bool
  txTest : Bool
  verbose : Bool
  deriving DecidableEq

/-- The configuration together with the global `__verbose`. -/
structure Settings where
  cfg : Configuration
  verbose : Bool
  deriving DecidableEq

def newConfiguration : Configuration where
  appTxPort := 0
  appRxPort := 0
  appAddress := none
  appInetAddr := 0
  txPort := 0
  rxPort := 0
  ifName := CharArray.zero _
  necMode := false
  txTest := false
  verbose := false

/-- One turn of the loop of `read_configuration`.  `in_addr_t` is unsigned,
so that the test of `app_inet_addr` for a negative value never holds. -/
def readOption (settings : Settings) : Opt → Except Stop Settings
  | .nettx optarg =>
      pure { settings with cfg.txPort := atoi optarg }
  | .netrx optarg =>
      pure { settings with cfg.rxPort := atoi optarg }
  | .appaddr optarg =>
      if strlen optarg ≤ 0 then
        throw .exitFailure
      else if inetAddr optarg = 0xFFFFFFFF then
        throw .exitFailure
      else
        pure
          { settings with
            cfg.appAddress := some optarg
            cfg.appInetAddr := inetAddr optarg }
  | .apptx optarg =>
      pure { settings with cfg.appTxPort := atoi optarg }
  | .apprx optarg =>
      pure { settings with cfg.appRxPort := atoi optarg }
  | .txtest =>
      pure { settings with cfg.txTest := true }
  | .ifname optarg =>
      pure
        { settings with
          cfg.ifName := strncpy settings.cfg.ifName optarg ifNamesize }
  | .nec =>
      pure { settings with cfg.necMode := true }
  | .verbose =>
      pure { settings with verbose := true, cfg.verbose := true }
  | .version => throw .exitSuccess
  | .help => throw .exitSuccess
  | .unrecognised => throw .exitSuccess

def readConfiguration (settings : Settings) (opts : List Opt) :
    Except Stop Settings :=
  opts.foldlM readOption settings

def checkConfiguration (cfg : Configuration) : Except Stop Unit :=
  if cfg.txPort ≤ 0 ∨ cfg.rxPort ≤ 0 then
    throw .exitFailure
  else if strlen cfg.ifName.text ≤ 0 then
    throw .exitFailure
  else if (cfg.appAddress.map strlen).any (· ≤ 0) then
    throw .exitFailure
  else if cfg.appTxPort ≤ 0 ∨ cfg.appRxPort ≤ 0 then
    throw .exitFailure
  else
    pure ()

def createConfiguration (opts : List Opt) : Except Stop Settings := do
  let settings ← readConfiguration ⟨newConfiguration, false⟩ opts
  checkConfiguration settings.cfg
  pure settings

end UdpipBroadcaster
