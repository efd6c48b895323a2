import EventWiki.Main
import EventWiki.Proofs.FlatPage
import EventWiki.Proofs.WrittenOutline
import EventWiki.Proofs.PhysicalLines
import EventWiki.Proofs.Quotation
import EventWiki.Proofs.CutPieces
import EventWiki.Proofs.BraceCut
import EventWiki.Proofs.BraceJoin
import EventWiki.Proofs.SettledLines
import EventWiki.Proofs.KeptText
import EventWiki.Proofs.LinePasses
import EventWiki.Proofs.BraceLayout
import EventWiki.Proofs.BraceBalance
import EventWiki.Proofs.DoubleInversion
import EventWiki.Proofs.OppositeComparison
import EventWiki.Proofs.JoinedScripts
import EventWiki.Proofs.SharedFindings
import EventWiki.Proofs.WrittenComparison
import EventWiki.Proofs.OwnDocuments
import EventWiki.Proofs.BrokenScript
import EventWiki.Proofs.CommandAgreement
import EventWiki.Proofs.DisplayedToken
import EventWiki.Proofs.TemplateText
import EventWiki.Proofs.InvertedWording
import EventWiki.Proofs.NumberWording
import EventWiki.Proofs.WordedValues
import EventWiki.Proofs.SoundFindings
import EventWiki.Proofs.TemplateFaults
import EventWiki.Proofs.HeaderPhrase
import EventWiki.Proofs.CountryWording
import EventWiki.Proofs.MergedSlots
import EventWiki.Proofs.ModifierEffects
import EventWiki.Proofs.HeaderScan
import EventWiki.Proofs.DraftAdditions
import EventWiki.Proofs.ErrorSpans
import EventWiki.Proofs.LoadPrecedence
import EventWiki.Proofs.WrittenRules
import EventWiki.Proofs.WrittenLocalisation
import EventWiki.Proofs.NearestKeys
import EventWiki.Proofs.LinkedTokens
import EventWiki.Proofs.NestingCursor
import EventWiki.Proofs.TokenWalk
