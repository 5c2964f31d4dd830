/-!
# Content types

The content type of a file follows from the extension of its name.
-/

namespace FrontPage

/-- The type of content that nothing else is known of. -/
def defaultContentType : String := "application/octet-stream"

/-- The content types by file extension. -/
def contentTypes : List (String × String) :=
  [ ("js", "application/javascript"),
    ("xml", "application/xml"),
    ("json", "application/json"),
    ("rss", "application/rss+xml"),
    ("html", "text/html"),
    ("htm", "text/html") ]

/-- The content type of files with an extension. -/
def contentTypeOf (extension : String) : String :=
  (contentTypes.lookup extension).getD defaultContentType

end FrontPage
