/-!
# Feeds

What the library keeps of a feed document: a title and the items in document order.
-/

namespace Newsstand

/-- One entry of a feed; a field that the document lacks is empty. -/
structure Item where
  title : String
  link : String
  description : String
  deriving DecidableEq, Repr

/-- A feed under the URL from which it was asked for. -/
structure Feed where
  url : String
  title : String
  items : List Item
  deriving DecidableEq, Repr

namespace Feed

/-- The feed that stands for a document without readable content. -/
def empty (url : String) : Feed :=
  ⟨url, "", []⟩

/-- Whether a feed has something to show. -/
def hasItems (feed : Feed) : Bool :=
  !feed.items.isEmpty

end Feed

end Newsstand
