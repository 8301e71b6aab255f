/-
The program that fills an empty catalog with the sample flows and says what it does.
-/
import FrontDesk.Service.Seeding
import FrontDesk.Service.World

open FrontDesk

/-- A world with no flows in it. -/
def emptyWorld : World := { clock := .utc 0, store := .relational {} }

/-- Fills the catalog. -/
def main : IO Unit := do
  match ((Seeding.seed emptyWorld.clock).run emptyWorld).1 with
  | .ok said => said.forM IO.println
  | .error e => IO.eprintln (e.message?.getD "")
