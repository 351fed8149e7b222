import BlitzLens.Settings

/-!
# Settings as data

The form in which settings are handed to other programs, which is also the one they are read from.
-/

namespace BlitzLens.Exchange

/-- The settings of a workspace. -/
def ofSettings (settings : Settings) : Value :=
  .record [
    ("use_brackets_everywhere", .bool settings.bracketsEverywhere),
    ("stub_path", .ofText? settings.stubPath),
    ("userlibs_dir", .ofText? settings.libraries),
    ("include_cycle_guard", .bool settings.cycleGuard),
    ("max_include_depth", .int settings.maxDepth),
    ("todo_tags", .ofTexts settings.todoTags),
    ("source_extensions", .ofTexts settings.sourceExtensions)]

end BlitzLens.Exchange
