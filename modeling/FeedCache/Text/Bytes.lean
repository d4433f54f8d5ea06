/-
This file says how bytes are compared.
-/
namespace FeedCache.Text

/-- Two runs of bytes are equal if they hold the same bytes in the same order. -/
instance bytesDecidableEq : DecidableEq ByteArray := ByteArray.instDecidableEq

end FeedCache.Text
