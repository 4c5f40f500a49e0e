import ShellDocs.Markdown.Document
import ShellDocs.Markdown.Html
import ShellDocs.Preview.HeadingId

/-! # Preview pages

A page of markdown as an HTML document with a title and links to the main pages.
-/

namespace ShellDocs.Preview

/-- The text with another one for each occurrence of the character. -/
def replaceChar (c : Char) (replacement s : String) : String :=
  String.ofList (s.toList.flatMap fun d => if d = c then replacement.toList else [d])

/-- The ampersand goes first, since every reference begins with one. -/
def escapeHtml (s : String) : String :=
  replaceChar '"' "&quot;"
    (replaceChar '>' "&gt;" (replaceChar '<' "&lt;" (replaceChar '&' "&amp;" s)))

def styleLines : List String := [
  "body \x7b font-family: -apple-system, BlinkMacSystemFont, 'Segoe UI', Helvetica, " ++
    "Arial, sans-serif; line-height: 1.6; color: #333; max-width: 1200px; margin: 0 auto; " ++
    "padding: 20px; \x7d",
  "h1, h2, h3, h4, h5, h6 \x7b color: #2c3e50; border-bottom: 1px solid #eaecef; " ++
    "padding-bottom: 0.3em; \x7d",
  "code \x7b background-color: #f8f8f8; padding: 2px 4px; border-radius: 3px; " ++
    "font-family: 'SFMono-Regular', Consolas, 'Liberation Mono', Menlo, monospace; \x7d",
  "pre \x7b background-color: #f8f8f8; padding: 16px; border-radius: 6px; overflow-x: " ++
    "auto; \x7d",
  "pre code \x7b background-color: transparent; padding: 0; \x7d",
  "table \x7b border-collapse: collapse; width: 100%; margin: 16px 0; \x7d",
  "th, td \x7b border: 1px solid #dfe2e5; padding: 8px 12px; text-align: left; \x7d",
  ".nav \x7b margin-bottom: 30px; padding: 10px; background-color: #f8f9fa; " ++
    "border-radius: 6px; \x7d",
  ".nav a \x7b margin-right: 15px; text-decoration: none; color: #0366d6; \x7d"]

def style : String := "\n".intercalate styleLines

def pageHead : String :=
  "<!DOCTYPE html>\n<html lang=\"en\">\n<head>\n<meta charset=\"UTF-8\">\n" ++
    "<meta name=\"viewport\" content=\"width=device-width, initial-scale=1.0\">\n<title>"

def pageNavigation : String :=
  "\n</style>\n</head>\n<body>\n<div class=\"nav\">\n<a href=\"/\">Home</a>\n" ++
    "<a href=\"/components\">Components</a>\n" ++
    "<a href=\"#\" onclick=\"location.reload()\">Refresh</a>\n</div>\n"

def pageBody (markdown : String) : String :=
  Markdown.toHtml (withHeadingIds (Markdown.events markdown))

def renderPage (title markdown : String) : String :=
  pageHead ++ escapeHtml title ++ "</title>\n<style>\n" ++ style ++ pageNavigation ++
    pageBody markdown ++ "\n</body>\n</html>\n"

end ShellDocs.Preview
