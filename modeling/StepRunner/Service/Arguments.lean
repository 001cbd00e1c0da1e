import StepRunner.Console.Command
import StepRunner.Settings.Config

/-!
This file reads the command line of the service.
-/

namespace StepRunner.Service

/-- How the service is asked to start. -/
structure Invocation where
  config : Option String
  store : Option String
  listen : Option String
  baseUrl : Option String
  headed : Bool
  deriving DecidableEq, Repr

namespace Invocation

open Console (Form Halt CommandLine setting switch anyPath anyText)

/-- The flags of the service. -/
def form : Form :=
  { flags :=
      [setting "config" (some 'c') anyPath, setting "store" (some 's') anyPath,
        setting "listen" (some 'l') anyText, setting "base-url" none anyText,
        switch "headed" none, switch "debug" (some 'd')] }

/-- The service has no commands. -/
def formOf (path : List String) : Option Form :=
  if path.isEmpty then some form else none

/-- Reads the command line; a variable may name the configuration file. -/
def read (configVariable : Option String) (words : List String) : Except Halt Invocation := do
  let line ← CommandLine.read formOf words
  let config := line.value? "config" <|> configVariable
  if config = some "" then throw .misuse
  return {
    config
    store := line.value? "store"
    listen := line.value? "listen"
    baseUrl := line.value? "base-url"
    headed := line.has "headed" }

/-- The settings of a configuration with those of the command line in their place. -/
def apply (invocation : Invocation) (config : Config) : Config :=
  { config with
    storePath := invocation.store.getD config.storePath
    browser :=
      { config.browser with
        baseUrl := invocation.baseUrl.getD config.browser.baseUrl
        headless := config.browser.headless && !invocation.headed }
    server := { listen := invocation.listen.getD config.server.listen } }

end Invocation

end StepRunner.Service
