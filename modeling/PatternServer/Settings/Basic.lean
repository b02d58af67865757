import PatternServer.Files.Path
import PatternServer.Number.Double
import PatternServer.Settings.LogLevel

/-!
# Settings

What can be set: how the running engine is found, how the notation parser is run, which names count
as samples besides the known ones, and how much is logged.
-/

namespace PatternServer

set_option autoImplicit false

open PatternServer.Number PatternServer.Files

namespace Settings

structure EngineSettings where
  host : String
  /-- The file in which the engine says how to reach it. -/
  stateFile : Path
  /-- How long to wait before a new engine is connected to, in seconds. -/
  settleDelay : Double
  /-- How often to look at the state file, in seconds. -/
  pollInterval : Double
deriving Repr, DecidableEq, Inhabited

structure ParserSettings where
  command : List String
  module : String
  timeout : Double
  restartDelay : Double
deriving Repr, DecidableEq, Inhabited

end Settings

structure Settings where
  engine : Settings.EngineSettings
  parser : Settings.ParserSettings
  extraSamples : List String
  nonSampleFunctions : List String
  /-- The name of a log level. -/
  logLevel : String
deriving Repr, DecidableEq, Inhabited

namespace Settings

def defaultHost : String := "127.0.0.1"

def defaultStateFile : Path := Path.ofString "~/.cache/strudel/engine-state.json"

def defaultSettleDelay : Double := Double.ofRatio false 1 2

def defaultPollInterval : Double := Double.ofNat 1

def defaultCommand : List String := ["node"]

def defaultModule : String := "@strudel/mini"

def defaultTimeout : Double := Double.ofNat 5

def defaultRestartDelay : Double := Double.ofNat 5

def defaultLogLevel : String := "info"

/-- The settings when nothing is set. The state file is not yet looked up in the home directory. -/
def standard : Settings :=
  { engine := ⟨defaultHost, defaultStateFile, defaultSettleDelay, defaultPollInterval⟩
    parser := ⟨defaultCommand, defaultModule, defaultTimeout, defaultRestartDelay⟩
    extraSamples := []
    nonSampleFunctions := []
    logLevel := defaultLogLevel }

def level? (s : Settings) : Option LogLevel :=
  LogLevel.ofName? s.logLevel

def configName : Path := Path.ofString "strudel-lsp.toml"

/-- The configuration file: the one that is named, else the one in the root directory. -/
def configPath (root config : Option Path) : Path :=
  config.getD ((root.getD Path.here).join configName)

end Settings

end PatternServer
