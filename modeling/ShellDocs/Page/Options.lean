/-! # Options of the pages -/

namespace ShellDocs.Page

structure Options where
  title : String := "Python Support Scripts Documentation"
  /-- Where install commands fetch the scripts from. -/
  installBase : String :=
    "https://raw.githubusercontent.com/dtudk/pythonsupport-scripts/main/MacOS/Components"
deriving DecidableEq

end ShellDocs.Page
