import ComponentInstall.Feed.Manifest
import ComponentInstall.Planning.Plan

/-!
# Planning with the feed

The program asks no other candidate source than the feed below the planner's own template. Planning
asks, and each question sends one request; those that reach a host are kept beside the plan.
-/

namespace ComponentInstall.Planning

open Disk Feed

/-- The result of planning with the feed, and the requests that reached a host for it. -/
structure FeedPlanned extends Planned where
  received : List Url.Address

namespace Planner

/-- The requests that reach a host for some questions. -/
def received (planner : Planner) (network : Network) (asked : List Query) : List Url.Address :=
  asked.flatMap fun query => Feed.received planner.template network query.name query.target

/-- Plans a request for an instance, with the feed as candidate source. -/
def planFromFeed (planner : Planner) (network : Network) (request : Request) (target : Instance)
    (disk : State) : FeedPlanned :=
  let planned := planner.plan (Feed.source planner.template network) request target disk
  { planned with received := planner.received network planned.asked }

end Planner

end ComponentInstall.Planning
