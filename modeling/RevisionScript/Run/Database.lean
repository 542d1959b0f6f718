import RevisionScript.File.Tree
import RevisionScript.Run.Session

namespace RevisionScript

/-- Whatever executes statements and tells the time. It answers with a row count, which may be
null. -/
structure Executor (W : Type) where
  execute : String → W → Except Failure Json × W
  now : W → Instant

/-- A database driver with at most one connection. It answers an execution with a number of rows,
which is negative when it is not known. -/
structure Database (W : Type) where
  connect : String → W → Except Failure Unit × W
  execute : String → W → Except Failure Json × W
  commit : W → Except Failure Unit × W
  rollback : W → Except Failure Unit × W
  close : W → Except Failure Unit × W
  inTransaction : W → Bool
  now : W → Instant

namespace Database

variable {W : Type} (db : Database W)

def rowCount (rows : Json) : Json := if rows.isNegative then .null else rows

def executor : Executor W where
  execute sql w := ((db.execute sql w).1.map rowCount, (db.execute sql w).2)
  now := db.now

def unavailable (path : Path) : Failure → Failure
  | .driver _ detail => .revision (.database (.unavailable path.text detail))
  | e => e

def connectTo (path : Path) : Act W Unit :=
  Act.call (.connect path.text) fun w ↦
    ((db.connect path.text w).1.mapError (unavailable path), (db.connect path.text w).2)

def executeStatement (sql : String) : Act W Json :=
  Act.call (.execute sql) (db.executor.execute sql)

def begin : Act W Unit := do
  if ← Act.observe db.inTransaction then
    throw (.revision (.database .transactionOpen))
  let _ ← Act.call (.execute "BEGIN") (db.execute "BEGIN")

def commitTransaction : Act W Unit := Act.call .commit db.commit

def rollbackTransaction : Act W Unit := Act.call .rollback db.rollback

def closeConnection : Act W Unit := Act.call .close db.close

end Database

end RevisionScript
