import Courier.Publishing.Publish
import Courier.Retention.Plan

/-! Listing and pruning what is stored. -/
namespace Courier.Publishing.Publisher

open Http (Session)
open Retention (Plan)

/-- The files that the server stores of the package. -/
def files (p : Publisher) (repository : String) (unpublished : Bool) :
    Session (Except Error (List RemoteFile)) :=
  p.client.listFiles repository p.settings.package unpublished

/-- What the server tells about the package. -/
def versions (p : Publisher) (repository : String) : Session (Except Error Json) :=
  p.client.packageInfo repository p.settings.package

/-- Deletes a file, or only says so. -/
def removeFile (p : Publisher) (repository : String) (dryRun : Bool) (path : String) :
    Session (Except Error Unit) :=
  if dryRun then .print (Report.info s!"delete {path} (dry run)") (.done (.ok ()))
  else .print (Report.info s!"delete {path}") (p.client.deleteFile repository path)

/-- Says what is kept, and deletes the rest. -/
def carryOut (p : Publisher) (repository : String) (dryRun : Bool) (plan : Plan) :
    Session (Except Error Plan) :=
  (Session.sayAll (plan.keep.map fun f => Report.info s!"keep {f.path}")).bind fun () =>
    (plan.apply (p.removeFile repository dryRun)).mapOk fun _ => plan

/-- Deletes all but the newest files of every group. -/
def prune (p : Publisher) (repository : String) (keep : Nat) (unpublished dryRun : Bool) :
    Session (Except Error Plan) :=
  (p.files repository unpublished).andThen fun files =>
    p.carryOut repository dryRun (Retention.plan files keep)

end Courier.Publishing.Publisher
