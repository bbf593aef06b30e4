import NoteMuse.Main
import NoteMuse.Proofs.Expansion.Depth
import NoteMuse.Proofs.Expansion.Links
import NoteMuse.Proofs.Expansion.Unknown
import NoteMuse.Proofs.Grammar.Closed
import NoteMuse.Proofs.Lint.Functions
import NoteMuse.Proofs.Lint.Unused
import NoteMuse.Proofs.Lint.Variety
import NoteMuse.Proofs.Preview.Agreement
import NoteMuse.Proofs.Registry.Directory
import NoteMuse.Proofs.Session.Disabling
import NoteMuse.Proofs.Session.Operation
import NoteMuse.Proofs.Template.Marker
import NoteMuse.Proofs.Call.Grammar
import NoteMuse.Proofs.Call.Display
import NoteMuse.Proofs.Template.Wikilink
import NoteMuse.Proofs.Expansion.Baseless
import NoteMuse.Proofs.Expansion.Shallow
import NoteMuse.Proofs.Expansion.Hiding
import NoteMuse.Proofs.Expansion.Cluster
import NoteMuse.Proofs.Note.Titles
import NoteMuse.Proofs.Suggestion.Drafts
import NoteMuse.Proofs.Text.CaseMap
import NoteMuse.Proofs.Inflection.Capital
import NoteMuse.Proofs.Inflection.LetterCase
import NoteMuse.Proofs.Modifier
import NoteMuse.Proofs.Host.Pairs
import NoteMuse.Proofs.Host.Sample
import NoteMuse.Proofs.Vault.Notes
import NoteMuse.Proofs.Vault.Backlinks
import NoteMuse.Proofs.Vault.Ranking
import NoteMuse.Proofs.Registry.Overwrite
import NoteMuse.Proofs.Host.Functions
import NoteMuse.Proofs.Session.Seed
