import StepRunner.Catalog.Record

/-!
This file lists the causes of failure and gives each its message.
-/

namespace StepRunner

/-- What is wrong with a request. -/
inductive Complaint where
  | unsupportedBrowser (word : String)
  | blankProjectName
  | blankTitle
  | blankStep
  | blankLine (line : Nat)
  | noSteps
  | stepTimeout
  deriving DecidableEq, Repr

/-- The message of a complaint. -/
def Complaint.message : Complaint → String
  | unsupportedBrowser word => "Unsupported browser: " ++ word
  | blankProjectName => "Project name cannot be empty."
  | blankTitle => "Title cannot be empty."
  | blankStep => "Step cannot be empty."
  | blankLine line => "Step " ++ toString line ++ ": Step cannot be empty."
  | noSteps => "Test case has no steps."
  | stepTimeout => "Step timeout must be greater than zero and at most 3600s."

/-- The kinds of things that a request can name. -/
inductive Resource where
  | project
  | testCase
  | run
  | thing
  deriving DecidableEq, Repr

/-- The name of a kind. -/
def Resource.name : Resource → String
  | project => "project"
  | testCase => "test case"
  | run => "run"
  | thing => "thing"

/-- Why a file operation fails. -/
inductive IoError where
  | notFound
  | occupied
  | notDirectory
  | isDirectory
  | invalidName
  | nameTooLong
  | linkLoop
  | notText
  deriving DecidableEq, Repr

/-- The message of a failed file operation. -/
def IoError.message : IoError → String
  | notFound => "No such file or directory (os error 2)"
  | occupied => "File exists (os error 17)"
  | notDirectory => "Not a directory (os error 20)"
  | isDirectory => "Is a directory (os error 21)"
  | invalidName => "file name contained an unexpected NUL byte"
  | nameTooLong => "File name too long (os error 36)"
  | linkLoop => "Too many levels of symbolic links (os error 40)"
  | notText => "stream did not contain valid UTF-8"

/-- The tables of the store. -/
inductive Table where
  | projects
  | testCases
  | steps
  | runs
  | stepResults
  deriving DecidableEq, Repr

/-- The name of a table. -/
def Table.name : Table → String
  | projects => "projects"
  | testCases => "test_cases"
  | steps => "steps"
  | runs => "runs"
  | stepResults => "step_results"

/-- Why the database refuses a write. -/
inductive DatabaseFault where
  | foreignKey
  | duplicateId (table : Table)
  | disk
  | cannotOpen (path : String)
  | notDatabase
  deriving DecidableEq, Repr

/-- The message of a refused write. -/
def DatabaseFault.message : DatabaseFault → String
  | foreignKey => "FOREIGN KEY constraint failed"
  | duplicateId table => "UNIQUE constraint failed: " ++ table.name ++ ".id"
  | disk => "disk I/O error"
  | cannotOpen path => "unable to open database file: " ++ path
  | notDatabase => "file is not a database"

/-- Why an operation of the store fails. -/
inductive StoreError where
  | io (error : IoError)
  | database (fault : DatabaseFault)
  | notFound (resource : Resource) (id : String)
  | validation (complaint : Complaint)
  | invalidTransition (source target : String)
  | unknownRunStatus (word : String)
  | unknownStepStatus (word : String)
  deriving DecidableEq, Repr

/-- The message of a failed operation of the store. -/
def StoreError.message : StoreError → String
  | io error => "IO error: " ++ error.message
  | database fault => "Database error: " ++ fault.message
  | notFound resource id => "Resource not found: " ++ resource.name ++ " with id " ++ id
  | validation complaint => complaint.message
  | invalidTransition source target => "Invalid state transition: " ++ source ++ " -> " ++ target
  | unknownRunStatus word => "Internal error: unknown run status " ++ word
  | unknownStepStatus word => "Internal error: unknown step status " ++ word

/-- Why a screenshot cannot be stored or read. -/
inductive ArtifactError where
  | io (error : IoError)
  | image
  | outsideRoot (path : String)
  | notFound (path : String)
  | invalidKey (key : String)
  deriving DecidableEq, Repr

/-- The message of a failed screenshot operation. -/
def ArtifactError.message : ArtifactError → String
  | io error => "IO error: " ++ error.message
  | image => "Image error: the image cannot be decoded"
  | outsideRoot path => "Path is outside the artifact root: " ++ path
  | notFound path => "Artifact not found: " ++ path
  | invalidKey key => "Invalid artifact key: " ++ key

/-- Why an operation of a browser session fails. -/
inductive SessionError where
  | launch (reason : String)
  | action (reason : String)
  | closed
  | screenshot (reason : String)
  deriving DecidableEq, Repr

/-- The message of a failed session operation. -/
def SessionError.message : SessionError → String
  | launch reason => "Failed to launch browser: " ++ reason
  | action reason => reason
  | closed => "Browser session closed"
  | screenshot reason => "Screenshot failed: " ++ reason

/-- Why a request to the engine fails. -/
inductive EngineError where
  | validation (complaint : Complaint)
  | notFound (resource : Resource) (id : String)
  | alreadyRunning (runId : Option String)
  | environment (reason : String)
  | runInProgress (resource : Resource) (id : String)
  | artifact (error : ArtifactError)
  | config
  | storage (error : StoreError)
  | io (error : IoError)
  | taskPanicked
  deriving DecidableEq, Repr

/-- The message of a failed request. -/
def EngineError.message : EngineError → String
  | validation complaint => complaint.message
  | notFound resource id => resource.name ++ " not found: " ++ id
  | alreadyRunning _ => "A run is already active."
  | environment reason => "Browser environment error: " ++ reason
  | runInProgress resource id =>
    "Cannot delete " ++ resource.name ++ " " ++ id ++ " while a run for it is in progress"
  | artifact error => "Artifact error: " ++ error.message
  | config => "Configuration error: the file is not a configuration"
  | storage error => "Storage error: " ++ error.message
  | io error => "IO error: " ++ error.message
  | taskPanicked => "Internal error: run task failed: task panicked"

/-- A complaint and a missing row keep their kind; every other failure is one of the storage. -/
def EngineError.ofStore : StoreError → EngineError
  | .validation complaint => validation complaint
  | .notFound resource id => notFound resource id
  | error => storage error

/-- The place of the store cannot be used. -/
def EngineError.storeIo (error : IoError) : EngineError := storage (.io error)

end StepRunner
