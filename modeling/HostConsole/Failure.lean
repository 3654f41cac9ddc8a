import HostConsole.Files
import HostConsole.SystemReference

/-!
# Failures

Everything that can end a run before its work is done, each with its words and its exit code.

## Main definitions

* `RemoteFault`: a request that did not get what it asked for
* `ConfigurationFault`, `UsageFault`: what is wrong with the settings or with the command
* `Failure`: all of them, with `Failure.message` and `Failure.exitCode`
-/

namespace HostConsole

/-- Exit codes by their usual meanings. -/
inductive ExitCode where
  | ok
  | usage
  | badData
  | unavailable
  | software
  | cannotCreate
  | inputOutput
  | temporary
  | protocol
  | notPermitted
  | configuration
  deriving DecidableEq, Repr

/-- The number of an exit code. -/
def ExitCode.number : ExitCode → Nat
  | ok => 0
  | usage => 64
  | badData => 65
  | unavailable => 69
  | software => 70
  | cannotCreate => 73
  | inputOutput => 74
  | temporary => 75
  | protocol => 76
  | notPermitted => 77
  | configuration => 78

/-- Why a request did not get what it asked for. -/
inductive RemoteCause where
  /-- The server has nothing at the resource. -/
  | notFound (message : String)
  /-- The server answered with another status that is no success. -/
  | status (code : Nat) (message : String)
  /-- There was no answer. -/
  | noAnswer (message : String)
  /-- The answer does not have the form it should have. -/
  | unreadable (message : String)
  deriving DecidableEq, Repr

/-- A request that did not get what it asked for. -/
structure RemoteFault where
  resource : String
  cause : RemoteCause
  deriving DecidableEq, Repr

namespace RemoteFault

/-- Did the server say that there is nothing? -/
def isNotFound (fault : RemoteFault) : Bool :=
  match fault.cause with
  | .notFound _ => true
  | _ => false

/-- The fault in words. -/
def message (fault : RemoteFault) : String :=
  match fault.cause with
  | .notFound m => fault.resource ++ " not found: " ++ m
  | .status code m =>
    "server returned " ++ Nat.repr code ++ " for " ++ fault.resource ++ ": " ++ m
  | .noAnswer m => "request to " ++ fault.resource ++ " failed: " ++ m
  | .unreadable m => "unexpected response from " ++ fault.resource ++ ": " ++ m

/-- The exit code depends on the cause alone. -/
def exitCode (fault : RemoteFault) : ExitCode :=
  match fault.cause with
  | .notFound _ => .badData
  | .status code _ => if code = 401 ∨ code = 403 then .notPermitted else .software
  | .noAnswer _ => .unavailable
  | .unreadable _ => .protocol

end RemoteFault

/-- What is wrong with the settings. -/
inductive ConfigurationFault where
  | noFile (path : String)
  | unreadableFile (path : String) (fault : FileFault)
  | malformedFile (path : String)
  /-- A number is too large to be written into a configuration file. -/
  | unwritableNumber
  | badAddress (url reason : String)
  /-- The address of the server has no place for the path of a resource. -/
  | addressWithoutPath (url : String)
  /-- A fault that comes with its own words. -/
  | described (message : String)
  deriving DecidableEq, Repr

/-- The fault in words. -/
def ConfigurationFault.message : ConfigurationFault → String
  | noFile path => "config file not found: " ++ path
  | unreadableFile path fault => "read " ++ path ++ ": " ++ fault.message
  | malformedFile path => "parse " ++ path
  | unwritableNumber => "serialize config: out-of-range value for u64 type"
  | badAddress url reason => "invalid server url " ++ url ++ ": " ++ reason
  | addressWithoutPath url => "server url cannot carry a path: " ++ url
  | described message => message

/-- What is wrong with a command. -/
inductive UsageFault where
  | organisationMissing
  | unsubscribeTargetMissing
  | releaseSourceMissing
  | groupNamesMissing
  | noServerNeeded
  | fileExists (path : String)
  | noConfigDirectory
  /-- A fault that comes with its own words. -/
  | described (message : String)
  deriving DecidableEq, Repr

/-- The fault in words. -/
def UsageFault.message : UsageFault → String
  | organisationMissing => "--org is required (or set defaults.org)"
  | unsubscribeTargetMissing => "one of --entitlement, --serial or --all is required"
  | releaseSourceMissing => "one of --name, --uuid or --environment is required"
  | groupNamesMissing => "--system_groups must name at least one group"
  | noServerNeeded => "command does not talk to the server"
  | fileExists path => path ++ " exists, use --force to overwrite"
  | noConfigDirectory => "no config directory, use --config"
  | described message => message

/-- What ends a run before its work is done. -/
inductive Failure where
  | missingSystemReference
  | conflictingSystemReference (name uuid : String)
  | systemNotFound (reference : SystemReference) (org : String)
  | ambiguousSystem (reference : SystemReference) (org : String) (count : Nat)
  | environmentNotFound (name org : String)
  | systemGroupNotFound (names org : String)
  /-- The server did not make the change it was asked for. -/
  | recordRejected (action name : String)
  | conflictingPackageActions
  | updateAllWithNames
  | emptyPackageList (action : String)
  | unknownReportFormat (text : String)
  | remote (fault : RemoteFault)
  /-- A task had not ended after so many milliseconds. -/
  | taskTimeout (task : String) (waited : Nat)
  | configuration (fault : ConfigurationFault)
  /-- A result could not be written where it belongs. -/
  | operationFailed (context : String)
  /-- A file or directory of the console's own could not be written. -/
  | inputOutput (context : String)
  /-- The connection could not be prepared. -/
  | connectionSetup (message : String)
  | usage (fault : UsageFault)
  deriving DecidableEq, Repr

namespace Failure

/-- The failure in words. -/
def message : Failure → String
  | missingSystemReference => "either a system name or a system uuid is required"
  | conflictingSystemReference name uuid =>
    "system name [ " ++ name ++ " ] and uuid [ " ++ uuid ++ " ] are mutually exclusive"
  | systemNotFound reference org =>
    "could not find system [ " ++ reference.text ++ " ] in org [ " ++ org ++ " ]"
  | ambiguousSystem reference org count =>
    "found " ++ Nat.repr count ++ " systems matching [ " ++ reference.text ++ " ] in org [ " ++
      org ++ " ], use --uuid to pick one"
  | environmentNotFound name org =>
    "could not find environment [ " ++ name ++ " ] in org [ " ++ org ++ " ]"
  | systemGroupNotFound names org =>
    "could not find system groups [ " ++ names ++ " ] in org [ " ++ org ++ " ]"
  | recordRejected action name => "could not " ++ action ++ " system [ " ++ name ++ " ]"
  | conflictingPackageActions => "at most one package action may be given per call"
  | updateAllWithNames => "--all updates every package and takes no package names"
  | emptyPackageList action => "empty package list for " ++ action
  | unknownReportFormat text => "unknown report format: " ++ text
  | remote fault => fault.message
  | taskTimeout task waited =>
    "gave up waiting for task [ " ++ task ++ " ] after " ++ Nat.repr (waited / 1000) ++ "s"
  | configuration fault => "config error: " ++ fault.message
  | operationFailed context => "operation failed: " ++ context
  | inputOutput context => "I/O error: " ++ context
  | connectionSetup message => "http client setup failed: " ++ message
  | usage fault => fault.message

/-- The exit code of the failure. -/
def exitCode : Failure → ExitCode
  | missingSystemReference | conflictingSystemReference .. | conflictingPackageActions
  | updateAllWithNames | emptyPackageList _ | unknownReportFormat _ | usage _ => .usage
  | systemNotFound .. | ambiguousSystem .. | environmentNotFound .. | systemGroupNotFound ..
  | recordRejected .. => .badData
  | remote fault => fault.exitCode
  | taskTimeout .. => .temporary
  | configuration _ => .configuration
  | operationFailed _ => .cannotCreate
  | inputOutput _ => .inputOutput
  | connectionSetup _ => .software

end Failure

end HostConsole
