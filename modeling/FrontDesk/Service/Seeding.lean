/-
Seeding: the sample flows are put into the catalog, whether they are there already or not.
-/
import FrontDesk.Catalog.Samples
import FrontDesk.Service.Job

namespace FrontDesk.Seeding

open Service

/-- Puts flows into the catalog; the result is what is said about it. -/
def saveAll : List Flow → Job (List String)
  | [] => return ["Flows seeding complete."]
  | f :: rest => do
    let _ ← Job.ofExcept .graph (Graph.ofJson (.object f.definition))
    let there ← Job.store (.flow f.id)
    let _ ← Job.store (.saveFlow f)
    let said ← saveAll rest
    return ["Processing flow: " ++ f.name ++ " (" ++ f.id ++ ")",
      if there.isSome then "--> Updating existing record." else "--> Creating new record."] ++ said

/-- Puts the sample flows into the catalog. -/
def seed (now : Calendar.Moment) : Job (List String) := do
  let fs := Samples.all now
  let said ← saveAll fs
  return ["Initializing Database Connection...",
    "Found " ++ toString fs.length ++ " flows to seed."] ++ said

end FrontDesk.Seeding
