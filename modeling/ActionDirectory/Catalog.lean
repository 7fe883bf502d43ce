/-
The built-in actions: what a working copy operation can report, by the stable
identifier that protocols carry and the name that is displayed. The identifiers
are not contiguous and not all positive; no two actions share one.
-/

import ActionDirectory.Action.Basic

namespace ActionDirectory.Catalog

def listed (value : Int) (name : String) (lower : -2147483648 ≤ value := by decide)
    (upper : value ≤ 2147483647 := by decide) : Action :=
  ⟨⟨value, lower, upper⟩, name⟩

/-- The built-in actions in the order of the catalog. -/
def actions : List Action := [
  listed (-1) "progress",
  listed 0 "add",
  listed 1 "copy",
  listed 2 "delete",
  listed 3 "restore",
  listed 4 "revert",
  listed 5 "failed_revert",
  listed 6 "resolved",
  listed 7 "skip",
  listed 8 "update_delete",
  listed 9 "update_add",
  listed 10 "update_update",
  listed (-10) "update_none",
  listed 11 "update_completed",
  listed 12 "update_external",
  listed 13 "status_completed",
  listed 14 "status_external",
  listed 15 "commit_modified",
  listed 16 "commit_added",
  listed 17 "commit_deleted",
  listed 18 "commit_replaced",
  listed 19 "commit_delta_sent",
  listed (-3) "commit_completed",
  listed 20 "annotate",
  listed 21 "locked",
  listed 22 "unlocked",
  listed 23 "lock_failed",
  listed 24 "unlock_failed",
  listed (-2) "wc_upgrade",
  listed 50 "upgraded_path",
  listed 59 "url_redirect",
  listed 25 "update_exists",
  listed 26 "changelist_set",
  listed 27 "changelist_clear",
  listed 28 "changelist_moved",
  listed 29 "merge_begin",
  listed 30 "foreign_merge_begin",
  listed 31 "update_replace",
  listed 32 "property_added",
  listed 33 "property_modified",
  listed 34 "property_deleted",
  listed 35 "property_deleted_nonexistent",
  listed 36 "revprop_set",
  listed 37 "revprop_deleted",
  listed 38 "merge_completed",
  listed 39 "tree_conflict",
  listed 40 "failed_external",
  listed 53 "patch",
  listed 41 "update_started",
  listed 55 "patch_rejected_hunk",
  listed 54 "patch_applied_hunk",
  listed 56 "patch_hunk_already_applied",
  listed 42 "update_skip_obstruction",
  listed 43 "update_skip_working_only",
  listed 44 "update_skip_access_denied",
  listed 45 "update_external_removed",
  listed 46 "update_shadowed_add",
  listed 47 "update_shadowed_update",
  listed 48 "update_shadowed_delete",
  listed 68 "skip_conflicted",
  listed 60 "path_nonexistent",
  listed 49 "merge_record_info",
  listed 51 "merge_record_info_begin",
  listed 52 "merge_elide_info",
  listed 64 "failed_out_of_date",
  listed 65 "failed_no_parent",
  listed 66 "failed_locked",
  listed 67 "failed_forbidden_by_server",
  listed 69 "update_broken_lock",
  listed 71 "resolver_starting",
  listed 72 "resolver_done",
  listed 70 "failed_obstruction",
  listed 62 "failed_conflict",
  listed 63 "failed_missing",
  listed 74 "foreign_copy_begin",
  listed 75 "move_broken",
  listed 76 "cleanup_external",
  listed 77 "failed_requires_target",
  listed 78 "info_external",
  listed 79 "commit_finalizing"]

/-- The built-in action with a name in capitals, and its position in the catalog. -/
def constant? (name : String) : Option (Action × Nat) :=
  actions.zipIdx.find? fun entry => entry.1.name.toUpper = name

theorem nodup_ids : (actions.map Action.id).Nodup := by
  decide

end ActionDirectory.Catalog
