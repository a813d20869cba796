/-
  GasLens/Command/Modes.lean
  ==========================
  **Modes** — the four things a run can do: compile only, profile one transaction, show a saved
  report, or run a campaign.
-/
import GasLens.Bytecode.Listing
import GasLens.Campaign.Run
import GasLens.Command.Basic
import GasLens.Command.Listing
import GasLens.Heatmap.Document
import GasLens.Node.Url
import GasLens.Profile.Document
import GasLens.Report.Document
import GasLens.Trace.Listing

namespace GasLens

open GasLens.Source GasLens.Text

structure Job (State : Type) where
  site : Site State
  config : Config
  /-- Whether the texts are coloured. -/
  color : Bool
  logger : Logger

namespace Job

variable {State : Type}

/-! ### Sources and contracts -/

def loadSource (j : Job State) : Command State String := do
  let path ← Command.require .config j.config.sourcePath
  let raw ← Command.readText (.unreadableSource path) path
  return Compiler.stripFences raw

def compilerSettings (j : Job State) : Compiler.Settings :=
  ⟨j.config.compiler, j.config.optimize, j.config.optimizerRuns⟩

def logVersion (j : Job State) (tool : Compiler.Executable) : Command State Unit :=
  match Compiler.version j.compilerSettings tool with
  | .ok version => Command.log j.logger .info ("using solc " ++ version)
  | .error f => Command.log j.logger .warn f.message

/-- The request that a compiler was given; none if it could not be started. -/
def deliveredRequest (tool : Compiler.Executable) (request : Json) : Option Json :=
  (tool.answer request).toOption.map fun _ => request

def compile (j : Job State) : Command State CompiledContract := do
  let source ← j.loadSource
  let tool := j.site.compiler j.config.compiler
  j.logVersion tool
  let compilerRequest := deliveredRequest tool (Compiler.requestFor j.compilerSettings source)
  let (r, journal) := Compiler.compile j.compilerSettings tool (j.logger.child "build") source
    j.config.contract (← get).journal
  modify fun p => { p with journal, compilerRequest }
  Command.require .compilation r

def lineMap (j : Job State) (c : CompiledContract) : Command State PcLineMap :=
  Command.require (.mapping c.name) (c.pcLineMap j.config.policy)

/-! ### The node -/

def addressFault (url : String) : Fault :=
  .rpc ("invalid RPC url " ++ url ++ ": relative URL without a base")

def environment (j : Job State) : Command State (Environment (Node.Connection State)) := do
  let url := j.config.rpcUrl
  if !Node.isAbsoluteUrl url then throw (.plain (addressFault url))
  return (Node.Client.mk (j.site.node url) (j.logger.child "chain")).environment

def openSession : Command State (Session (Node.Connection State)) := do
  let p ← get
  return .start p.connection p.journal

def closeSession (s : Session (Node.Connection State)) : Command State Unit :=
  modify fun p => { p with journal := s.journal, connection := s.world }

/-! ### Compiling only -/

def compileOnly (j : Job State) : Command State Outcome := do
  let c ← j.compile
  let map ← j.lineMap c
  let functions ← Command.require .plain c.functions
  (contractLines j.color c map functions).forM Command.print
  c.warnings.forM fun w => Command.print (styled j.color .warning w)
  if j.config.printSteps then
    let decoded := (Bytecode.bytesOfText c.runtimeCode).bind Bytecode.disassemble
    let listing ← Command.require (fun f => .plain (.decode f)) decoded
    Command.print (String.ofList (trimRight listing.toList))
  Command.writeTextTo j.config.jsonOutput c.toJson.pretty
  return { Outcome.ofContract c.name with functions := functions.length }

/-! ### One transaction -/

def stepsText (t : Trace) (p : Profile) : String :=
  natText t.steps.length ++ " steps: " ++ natText p.mappedSteps ++ " mapped, " ++
    natText p.unmappedSteps ++ " unmapped"

def traceOf (j : Job State) (transaction : String) : Command State Trace := do
  let environment ← j.environment
  let retry ← Command.require .config j.config.retryPolicy
  let session ← openSession
  let (r, session) := session.fetchTrace environment retry j.logger transaction
  closeSession session
  Command.require (.tracing transaction) r

def profileTransaction (j : Job State) (transaction : String) : Command State Outcome := do
  let c ← j.compile
  let map ← j.lineMap c
  let t ← j.traceOf transaction
  if j.config.printSteps then Command.emit (t.listing j.color map.lineFor)
  let p ← Command.fitting (Profile.replay t map)
  Command.log j.logger .info (stepsText t p)
  let mapped ← Command.fitting p.mappedCost
  (profileLines j.color c p mapped).forM Command.print
  Command.writeTextTo j.config.jsonOutput p.toJson.pretty
  return { Outcome.ofContract c.name with samples := 1, totalCost := p.totalCost }

/-! ### Reports -/

/-- What is said when no function left a sample. -/
def noSampleText : String := "No entry point produced a cost sample"

def sampleCount (r : ContractReport) : Nat := (r.functions.map fun f => f.samples.length).sum

/-- Whether functions were invoked and none left a sample. -/
def lacksSamples (r : ContractReport) : Bool := sampleCount r = 0 && !r.functions.isEmpty

def showReport (j : Job State) (r : ContractReport) (source : String) :
    Command State Outcome := do
  let h ← Command.fitting (Heatmap.ofReport r source)
  Command.print (String.ofList (trimRight (h.listing j.color).toList))
  Command.writeTextTo j.config.jsonOutput h.write
  let o := { Outcome.ofContract r.name with
    functions := r.functions.length, samples := sampleCount r, totalCost := h.totalCost }
  if lacksSamples r then
    Command.print (styled j.color .warning noSampleText)
    return { o with exitCode := .noSamples }
  return o

def fromReport (j : Job State) (path : String) : Command State Outcome := do
  let written ← Command.readText (.unreadableReport path) path
  let verdict ← Command.fitting (ContractReport.read written)
  let r ← Command.require (.rejectedReport path) verdict
  j.showReport r (← j.loadSource)

/-! ### Campaigns -/

def words (j : Job State) : Random.WordSource :=
  match j.config.seed with
  | some seed => .ofSeed (UInt64.ofNat seed)
  | none => j.site.entropy

def campaignReport (j : Job State) (c : CompiledContract) : Command State ContractReport := do
  let environment ← j.environment
  let settings ← Command.require .config j.config.campaignSettings
  let campaign := Campaign.mk environment settings (j.logger.child "fuzzer")
  match campaign.run c (← openSession) j.words 0 with
  | none => throw (.endlessDraw c.name)
  | some ((r, session), _) =>
    closeSession session
    Command.require (.fuzzing c.name) (← Command.fitting r)

/-- The functions of the contract are invoked, and the report is shown. -/
def fuzz (j : Job State) : Command State Outcome := do
  let c ← j.compile
  let r ← j.campaignReport c
  Command.writeTextTo j.config.reportOutput r.write
  j.showReport r c.source

def perform (j : Job State) : Command State Outcome := do
  match ← Command.require .config j.config.mode with
  | .compileOnly => j.compileOnly
  | .profileTransaction transaction => j.profileTransaction transaction
  | .fromReport path => j.fromReport path
  | .fuzz => j.fuzz

end Job

end GasLens
