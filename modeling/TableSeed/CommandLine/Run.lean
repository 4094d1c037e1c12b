import TableSeed.CommandLine.Reader
import TableSeed.CommandLine.Report

/-!
# Running commands

`seed` reads its document before it connects to the database, and prints what it is about to do
between the two. `tables` lists the tables of a database.
-/

namespace TableSeed.CommandLine

/-- Seeds a document. -/
def runSeed (host : Host) (sandbox : Sandbox) (a : SeedArguments) : Report :=
  let log := sandbox.world.log
  let failed (log : Log) (e : CommandError) : Report :=
    { log, failure := some e, files := host.files }
  if !host.files.hasPath a.document then failed log (.noDocument a.document)
  else
    match Settings.load host log a.config with
    | .error e => failed log (.settings e)
    | .ok (settings, log) =>
      let settings := settings.override a.options
      match Document.load host.files a.document with
      | .error e => failed log (.document e)
      | .ok document =>
        let before := Report.announcement a.document document settings
        match OpenDatabase.connect host.files log settings.database with
        | .error e => { failed log (.connection e) with lines := before }
        | .ok o =>
          let sources : SeedSources := ⟨.files o.files settings.schemas, o.files⟩
          let sandbox := { sandbox with world := { sandbox.world with log := o.log } }
          let (result, r) :=
            seed Connection.store sources document settings.seedOptions sandbox o.connection
          let files := o.close r.store
          match result with
          | .error e => { lines := before, log := r.log, failure := some (.seeding e), files }
          | .ok summary => { lines := before ++ Report.summary summary, log := r.log, files }

/-- Lists the tables of a database. -/
def runTables (host : Host) (log : Log) (a : TablesArguments) : Report :=
  let failed (log : Log) (e : CommandError) : Report :=
    { log, failure := some e, files := host.files }
  match Settings.load host log a.config with
  | .error e => failed log (.settings e)
  | .ok (settings, log) =>
    let address := a.database.getD settings.database
    match OpenDatabase.connect host.files log address with
    | .error e => failed log (.connection e)
    | .ok o =>
      let files := o.close o.connection
      match o.connection.tables with
      | .error e => { log := o.log, failure := some (.listing e), files }
      | .ok tables => { lines := Report.listing address tables, log := o.log, files }

/-- Runs a command, in a sandbox in which nothing is bound. -/
def Command.run (host : Host) (sandbox : Sandbox) : Command → Report
  | .seed a => runSeed host sandbox a
  | .tables a => runTables host sandbox.world.log a

end TableSeed.CommandLine
