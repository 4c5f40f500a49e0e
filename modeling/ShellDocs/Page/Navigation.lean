import ShellDocs.Page.Group

/-! # The navigation document

A site navigation in which every group page has its entry.
-/

namespace ShellDocs.Page

def navigationEntry (group : String) : String :=
  "    - " ++ group ++ ": generated/" ++ groupFile group ++ "\n"

def navigation (groups : List String) : String :=
  "# Suggested MkDocs navigation structure:\nnav:\n  - Home: index.md\n  - MacOS:\n" ++
    String.join (groups.map navigationEntry) ++
    "  - Windows:\n    - Components: windows/components/index.md\n"

end ShellDocs.Page
