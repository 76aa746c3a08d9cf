import DocPages.Browser.Run
import DocPages.Catalog
import DocPages.Document.Flat
import DocPages.Highlight
import DocPages.Loader
import DocPages.Page.Run
import DocPages.Proofs.Browser.Degraded
import DocPages.Proofs.Config.Ended
import DocPages.Proofs.Config.Meaning
import DocPages.Proofs.Config.Partial
import DocPages.Proofs.Fuzzy.Ascii
import DocPages.Proofs.Fuzzy.Words
import DocPages.Proofs.Index.Stored
import DocPages.Proofs.Index.Tolerant
import DocPages.Proofs.Markup.Installed
import DocPages.Proofs.Markup.Loaded
import DocPages.Proofs.Page.Apart
import DocPages.Proofs.Page.Headless
import DocPages.Proofs.Page.Limits
import DocPages.Proofs.Page.Newest
import DocPages.Proofs.Page.Panel
import DocPages.Proofs.Page.Sidebar
import DocPages.Proofs.Page.Tasks
import DocPages.Proofs.Page.Viewport
import DocPages.Proofs.Panel.Breaks
import DocPages.Proofs.Panel.Tree
import DocPages.Proofs.Ranking.Cancellation
import DocPages.Proofs.Ranking.Order
import DocPages.Proofs.Section.Effects
import DocPages.Proofs.Session.Futures
import DocPages.Publish
import DocPages.Text.Breaks
import DocPages.Text.Escape
import DocPages.Proofs.Catalog.Links
import DocPages.Proofs.Document.Removed
import DocPages.Proofs.Browser.Width
import DocPages.Proofs.FileTree.Published
