import VersionGate.Run

/-! What a cluster reports about its version, and the sources that can be asked for it. -/
namespace VersionGate

structure ServerInfo where
  gitVersion : String
  major : Option String := none
  minor : Option String := none
  gitCommit : Option String := none
  platform : Option String := none
deriving DecidableEq, Repr

namespace ServerInfo

def kindName : String := "ServerVersionInfo"

def fieldNames : List String := ["git_version", "major", "minor", "git_commit", "platform"]

/-- The information made of named fields, of which only the version is required; unknown fields
are passed over. -/
def ofFields (fields : Fields) : Except Invalid ServerInfo :=
  let gitVersion := fields.requiredText "git_version"
  let major := fields.optionalText "major"
  let minor := fields.optionalText "minor"
  let gitCommit := fields.optionalText "git_commit"
  let platform := fields.optionalText "platform"
  match gitVersion, major, minor, gitCommit, platform with
  | .ok gitVersion, .ok major, .ok minor, .ok gitCommit, .ok platform =>
      .ok { gitVersion, major, minor, gitCommit, platform }
  | _, _, _, _, _ =>
      .error { record := kindName
               issues := Issue.of? gitVersion ++ Issue.of? major ++ Issue.of? minor
                 ++ Issue.of? gitCommit ++ Issue.of? platform }

def toFields (info : ServerInfo) : Fields :=
  [("git_version", .text info.gitVersion), ("major", .ofText? info.major),
    ("minor", .ofText? info.minor), ("git_commit", .ofText? info.gitCommit),
    ("platform", .ofText? info.platform)]

end ServerInfo

inductive Endpoint where
  | fails (failure : Failure)
  | answers (fields : Fields)
deriving Repr

/-- The answer in the fields that are read; one that is not given is null. -/
def Endpoint.known (fields : Fields) : Fields :=
  ServerInfo.fieldNames.map fun name => (name, (fields.get? name).getD .null)

/-- The answer in a version document, by the names that its members have there. -/
def Endpoint.ofDocument : Value → Endpoint
  | .object members => .answers (members.filterMap fun (name, value) =>
      (memberNames.lookup name).map fun field => (field, value))
  | _ => .answers []
where
  memberNames : List (String × String) :=
    [("gitVersion", "git_version"), ("major", "major"), ("minor", "minor"),
      ("gitCommit", "git_commit"), ("platform", "platform")]

/-- Something that can be asked for the server's version; the run is what one question does. -/
structure Versioner where
  serverVersion : Run ServerInfo

namespace Versioner

def failing (failure : Failure) : Versioner := ⟨Run.fail failure⟩

def ofFields (fields : Fields) : Versioner :=
  ⟨Run.ofExcept ((ServerInfo.ofFields fields).mapError .invalid)⟩

def resolved (info : ServerInfo) : Versioner := ⟨pure info⟩

/-- Queries an endpoint. Its answer is recorded as it came, before its fields are looked at. -/
def ofEndpoint (endpoint : Endpoint) : Versioner where
  serverVersion := do
    Run.load .versionQuery
    match endpoint with
    | .fails failure => Run.fail failure
    | .answers fields =>
        let known := Endpoint.known fields
        Run.record .debug "version_check.server_version"
          [("git_version", (known.get? "git_version").getD .null)]
        Run.ofExcept ((ServerInfo.ofFields known).mapError .invalid)

def ask (versioner : Versioner) : Run ServerInfo := do
  Run.perform .query
  versioner.serverVersion

end Versioner

end VersionGate
