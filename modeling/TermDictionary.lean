import TermDictionary.Term.Kind
import TermDictionary.Term.DatatypeClass
import TermDictionary.Term.Id
import TermDictionary.Term.Literal
import TermDictionary.Term.Content
import TermDictionary.Term.Quoted
import TermDictionary.Reserved.Basic
import TermDictionary.Reserved.Standard
import TermDictionary.Store.Budget
import TermDictionary.Store.Table
import TermDictionary.Store.Error
import TermDictionary.Store.Basic
import TermDictionary.Store.Intern
import TermDictionary.Store.Query
import TermDictionary.Store.Session
import TermDictionary.Proofs.Table
import TermDictionary.Proofs.Build
import TermDictionary.Proofs.Run
import TermDictionary.Proofs.Interning
import TermDictionary.Proofs.Accounting
import TermDictionary.Proofs.Allocation
import TermDictionary.Proofs.Growth
import TermDictionary.Proofs.Reserved
import TermDictionary.Proofs.Independence
import TermDictionary.Proofs.Layout
import TermDictionary.Proofs.Construction
import TermDictionary.Proofs.InternStep
import TermDictionary.Proofs.Quoting
import TermDictionary.Proofs.IdOrder
import TermDictionary.Proofs.Validation
import TermDictionary.Proofs.ByteOrder
import TermDictionary.Proofs.RecordOrder
import TermDictionary.Store.IndexedRegion
import TermDictionary.Proofs.RegionConsistency
import TermDictionary.Proofs.ExclusivePath
import TermDictionary.Proofs.RegionRefinement
import TermDictionary.Proofs.Queries
