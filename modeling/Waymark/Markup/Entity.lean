import Waymark.CharSet

/-!
# Waymark.Markup.Entity

Characters written by name or by number, such as `&amp;` and `&#38;`.
-/

namespace Waymark.Markup

/-- The names of characters, each with its code points in base 36. -/
def entityTable : String :=
    "AElig=5i AMP=12 Aacute=5d Abreve=76 Acirc=5e Acy=sw Afr=2kn8 Agrave=5c Alpha=pd Amacr=74 And=8cz
Aogon=78 Aopf=2koo ApplyFunction=6e9 Aring=5h Ascr=2kkc Assign=6s4 Atilde=5f Auml=5g Backslash=6qe
Barv=8h3 Barwed=6x2 Bcy=sx Because=6r9 Bernoullis=6jw Beta=pe Bfr=2kn9 Bopf=2kop Breve=k8 Bscr=6jw
Bumpeq=6ry CHcy=tj COPY=4p Cacute=7a Cap=6vm CapitalDifferentialD=6kl Cayleys=6jx Ccaron=7g
Ccedil=5j Ccirc=7c Cconint=6r4 Cdot=7e Cedilla=54 CenterDot=53 Cfr=6jx Chi=pz CircleDot=6u1
CircleMinus=6ty CirclePlus=6tx CircleTimes=6tz ClockwiseContourIntegral=6r6
CloseCurlyDoubleQuote=6cd CloseCurlyQuote=6c9 Colon=6rb Colone=8dw Congruent=6sh Conint=6r3
ContourIntegral=6r2 Copf=6iq Coproduct=6q8 CounterClockwiseContourIntegral=6r7 Cross=8bz Cscr=2kke
Cup=6vn CupCap=6rx DD=6kl DDotrahd=841 DJcy=si DScy=sl DZcy=sv Dagger=6ch Darr=6n5 Dashv=8h0
Dcaron=7i Dcy=t0 Del=6pz Delta=pg Dfr=2knb DiacriticalAcute=50 DiacriticalDot=k9
DiacriticalDoubleAcute=kd DiacriticalGrave=2o DiacriticalTilde=kc Diamond=6v8 DifferentialD=6km
Dopf=2kor Dot=4o DotDot=6ho DotEqual=6s0 DoubleContourIntegral=6r3 DoubleDot=4o
DoubleDownArrow=6oj DoubleLeftArrow=6og DoubleLeftRightArrow=6ok DoubleLeftTee=8h0
DoubleLongLeftArrow=7w8 DoubleLongLeftRightArrow=7wa DoubleLongRightArrow=7w9 DoubleRightArrow=6oi
DoubleRightTee=6ug DoubleUpArrow=6oh DoubleUpDownArrow=6ol DoubleVerticalBar=6qt DownArrow=6mr
DownArrowBar=843 DownArrowUpArrow=6ph DownBreve=lt DownLeftRightVector=85s DownLeftTeeVector=866
DownLeftVector=6nx DownLeftVectorBar=85y DownRightTeeVector=867 DownRightVector=6o1
DownRightVectorBar=85z DownTee=6uc DownTeeArrow=6nb Downarrow=6oj Dscr=2kkf Dstrok=7k ENG=96
ETH=5s Eacute=5l Ecaron=7u Ecirc=5m Ecy=tp Edot=7q Efr=2knc Egrave=5k Element=6q0 Emacr=7m
EmptySmallSquare=7i3 EmptyVerySmallSquare=7fv Eogon=7s Eopf=2kos Epsilon=ph Equal=8dx
EqualTilde=6rm Equilibrium=6oc Escr=6k0 Esim=8dv Eta=pj Euml=5n Exists=6pv ExponentialE=6kn Fcy=tg
Ffr=2knd FilledSmallSquare=7i4 FilledVerySmallSquare=7fu Fopf=2kot ForAll=6ps Fouriertrf=6k1
Fscr=6k1 GJcy=sj GT=1q Gamma=pf Gammad=rg Gbreve=7y Gcedil=82 Gcirc=7w Gcy=sz Gdot=80 Gfr=2kne
Gg=6vt Gopf=2kou GreaterEqual=6sl GreaterEqualLess=6vv GreaterFullEqual=6sn GreaterGreater=8f6
GreaterLess=6t3 GreaterSlantEqual=8e6 GreaterTilde=6sz Gscr=2kki Gt=6sr HARDcy=tm Hacek=jr Hat=2m
Hcirc=84 Hfr=6j0 HilbertSpace=6iz Hopf=6j1 HorizontalLine=7b4 Hscr=6iz Hstrok=86 HumpDownHump=6ry
HumpEqual=6rz IEcy=t1 IJlig=8i IOcy=sh Iacute=5p Icirc=5q Icy=t4 Idot=8g Ifr=6j5 Igrave=5o Im=6j5
Imacr=8a ImaginaryI=6ko Implies=6oi Int=6r0 Integral=6qz Intersection=6v6 InvisibleComma=6eb
InvisibleTimes=6ea Iogon=8e Iopf=2kow Iota=pl Iscr=6j4 Itilde=88 Iukcy=sm Iuml=5r Jcirc=8k Jcy=t5
Jfr=2knh Jopf=2kox Jscr=2kkl Jsercy=so Jukcy=sk KHcy=th KJcy=ss Kappa=pm Kcedil=8m Kcy=t6 Kfr=2kni
Kopf=2koy Kscr=2kkm LJcy=sp LT=1o Lacute=8p Lambda=pn Lang=7vu Laplacetrf=6j6 Larr=6n2 Lcaron=8t
Lcedil=8r Lcy=t7 LeftAngleBracket=7vs LeftArrow=6mo LeftArrowBar=6p0 LeftArrowRightArrow=6o6
LeftCeiling=6x4 LeftDoubleBracket=7vq LeftDownTeeVector=869 LeftDownVector=6o3
LeftDownVectorBar=861 LeftFloor=6x6 LeftRightArrow=6ms LeftRightVector=85q LeftTee=6ub
LeftTeeArrow=6n8 LeftTeeVector=862 LeftTriangle=6uq LeftTriangleBar=89b LeftTriangleEqual=6us
LeftUpDownVector=85t LeftUpTeeVector=868 LeftUpVector=6nz LeftUpVectorBar=860 LeftVector=6nw
LeftVectorBar=85u Leftarrow=6og Leftrightarrow=6ok LessEqualGreater=6vu LessFullEqual=6sm
LessGreater=6t2 LessLess=8f5 LessSlantEqual=8e5 LessTilde=6sy Lfr=2knj Ll=6vs Lleftarrow=6oq
Lmidot=8v LongLeftArrow=7w5 LongLeftRightArrow=7w7 LongRightArrow=7w6 Longleftarrow=7w8
Longleftrightarrow=7wa Longrightarrow=7w9 Lopf=2koz LowerLeftArrow=6mx LowerRightArrow=6mw
Lscr=6j6 Lsh=6nk Lstrok=8x Lt=6sq Map=83p Mcy=t8 MediumSpace=6e7 Mellintrf=6k3 Mfr=2knk
MinusPlus=6qb Mopf=2kp0 Mscr=6k3 Mu=po NJcy=sq Nacute=8z Ncaron=93 Ncedil=91 Ncy=t9
NegativeMediumSpace=6bv NegativeThickSpace=6bv NegativeThinSpace=6bv NegativeVeryThinSpace=6bv
NestedGreaterGreater=6sr NestedLessLess=6sq NewLine=a Nfr=2knl NoBreak=6e8 NonBreakingSpace=4g
Nopf=6j9 Not=8h8 NotCongruent=6si NotCupCap=6st NotDoubleVerticalBar=6qu NotElement=6q1
NotEqual=6sg NotEqualTilde=6rm+mw NotExists=6pw NotGreater=6sv NotGreaterEqual=6sx
NotGreaterFullEqual=6sn+mw NotGreaterGreater=6sr+mw NotGreaterLess=6t5 NotGreaterSlantEqual=8e6+mw
NotGreaterTilde=6t1 NotHumpDownHump=6ry+mw NotHumpEqual=6rz+mw NotLeftTriangle=6wa
NotLeftTriangleBar=89b+mw NotLeftTriangleEqual=6wc NotLess=6su NotLessEqual=6sw NotLessGreater=6t4
NotLessLess=6sq+mw NotLessSlantEqual=8e5+mw NotLessTilde=6t0 NotNestedGreaterGreater=8f6+mw
NotNestedLessLess=8f5+mw NotPrecedes=6tc NotPrecedesEqual=8fj+mw NotPrecedesSlantEqual=6w0
NotReverseElement=6q4 NotRightTriangle=6wb NotRightTriangleBar=89c+mw NotRightTriangleEqual=6wd
NotSquareSubset=6tr+mw NotSquareSubsetEqual=6w2 NotSquareSuperset=6ts+mw
NotSquareSupersetEqual=6w3 NotSubset=6te+6he NotSubsetEqual=6tk NotSucceeds=6td
NotSucceedsEqual=8fk+mw NotSucceedsSlantEqual=6w1 NotSucceedsTilde=6tb+mw NotSuperset=6tf+6he
NotSupersetEqual=6tl NotTilde=6rl NotTildeEqual=6ro NotTildeFullEqual=6rr NotTildeTilde=6rt
NotVerticalBar=6qs Nscr=2kkp Ntilde=5t Nu=pp OElig=9e Oacute=5v Ocirc=5w Ocy=ta Odblac=9c Ofr=2knm
Ograve=5u Omacr=98 Omega=q1 Omicron=pr Oopf=2kp2 OpenCurlyDoubleQuote=6cc OpenCurlyQuote=6c8
Or=8d0 Oscr=2kkq Oslash=60 Otilde=5x Otimes=8c7 Ouml=5y OverBar=6da OverBrace=732 OverBracket=71w
OverParenthesis=730 PartialD=6pu Pcy=tb Pfr=2knn Phi=py Pi=ps PlusMinus=4x Poincareplane=6j0
Popf=6jd Pr=8fv Precedes=6t6 PrecedesEqual=8fj PrecedesSlantEqual=6t8 PrecedesTilde=6ta Prime=6cz
Product=6q7 Proportion=6rb Proportional=6ql Pscr=2kkr Psi=q0 QUOT=y Qfr=2kno Qopf=6je Qscr=2kks
RBarr=840 REG=4u Racute=9g Rang=7vv Rarr=6n4 Rarrtl=846 Rcaron=9k Rcedil=9i Rcy=tc Re=6jg
ReverseElement=6q3 ReverseEquilibrium=6ob ReverseUpEquilibrium=86n Rfr=6jg Rho=pt
RightAngleBracket=7vt RightArrow=6mq RightArrowBar=6p1 RightArrowLeftArrow=6o4 RightCeiling=6x5
RightDoubleBracket=7vr RightDownTeeVector=865 RightDownVector=6o2 RightDownVectorBar=85x
RightFloor=6x7 RightTee=6ua RightTeeArrow=6na RightTeeVector=863 RightTriangle=6ur
RightTriangleBar=89c RightTriangleEqual=6ut RightUpDownVector=85r RightUpTeeVector=864
RightUpVector=6ny RightUpVectorBar=85w RightVector=6o0 RightVectorBar=85v Rightarrow=6oi Ropf=6jh
RoundImplies=86o Rrightarrow=6or Rscr=6jf Rsh=6nl RuleDelayed=8ac SHCHcy=tl SHcy=tk SOFTcy=to
Sacute=9m Sc=8fw Scaron=9s Scedil=9q Scirc=9o Scy=td Sfr=2knq ShortDownArrow=6mr
ShortLeftArrow=6mo ShortRightArrow=6mq ShortUpArrow=6mp Sigma=pv SmallCircle=6qg Sopf=2kp6
Sqrt=6qi Square=7fl SquareIntersection=6tv SquareSubset=6tr SquareSubsetEqual=6tt
SquareSuperset=6ts SquareSupersetEqual=6tu SquareUnion=6tw Sscr=2kku Star=6va Sub=6vk Subset=6vk
SubsetEqual=6ti Succeeds=6t7 SucceedsEqual=8fk SucceedsSlantEqual=6t9 SucceedsTilde=6tb
SuchThat=6q3 Sum=6q9 Sup=6vl Superset=6tf SupersetEqual=6tj Supset=6vl THORN=66 TRADE=6jm TSHcy=sr
TScy=ti Tab=9 Tau=pw Tcaron=9w Tcedil=9u Tcy=te Tfr=2knr Therefore=6r8 Theta=pk ThickSpace=6e7+6bu
ThinSpace=6bt Tilde=6rg TildeEqual=6rn TildeFullEqual=6rp TildeTilde=6rs Topf=2kp7 TripleDot=6hn
Tscr=2kkv Tstrok=9y Uacute=62 Uarr=6n3 Uarrocir=85l Ubrcy=su Ubreve=a4 Ucirc=63 Ucy=tf Udblac=a8
Ufr=2kns Ugrave=61 Umacr=a2 UnderBar=2n UnderBrace=733 UnderBracket=71x UnderParenthesis=731
Union=6v7 UnionPlus=6tq Uogon=aa Uopf=2kp8 UpArrow=6mp UpArrowBar=842 UpArrowDownArrow=6o5
UpDownArrow=6mt UpEquilibrium=86m UpTee=6ud UpTeeArrow=6n9 Uparrow=6oh Updownarrow=6ol
UpperLeftArrow=6mu UpperRightArrow=6mv Upsi=r6 Upsilon=px Uring=a6 Uscr=2kkw Utilde=a0 Uuml=64
VDash=6uj Vbar=8h7 Vcy=sy Vdash=6uh Vdashl=8h2 Vee=6v5 Verbar=6c6 Vert=6c6 VerticalBar=6qr
VerticalLine=3g VerticalSeparator=7rs VerticalTilde=6rk VeryThinSpace=6bu Vfr=2knt Vopf=2kp9
Vscr=2kkx Vvdash=6ui Wcirc=ac Wedge=6v4 Wfr=2knu Wopf=2kpa Wscr=2kky Xfr=2knv Xi=pq Xopf=2kpb
Xscr=2kkz YAcy=tr YIcy=sn YUcy=tq Yacute=65 Ycirc=ae Ycy=tn Yfr=2knw Yopf=2kpc Yscr=2kl0 Yuml=ag
ZHcy=t2 Zacute=ah Zcaron=al Zcy=t3 Zdot=aj ZeroWidthSpace=6bv Zeta=pi Zfr=6js Zopf=6jo Zscr=2kl1
aacute=69 abreve=77 ac=6ri acE=6ri+mr acd=6rj acirc=6a acute=50 acy=ts aelig=6e af=6e9 afr=2kny
agrave=68 alefsym=6k5 aleph=6k5 alpha=q9 amacr=75 amalg=8cf amp=12 and=6qv andand=8d1 andd=8d8
andslope=8d4 andv=8d6 ang=6qo ange=884 angle=6qo angmsd=6qp angmsdaa=888 angmsdab=889 angmsdac=88a
angmsdad=88b angmsdae=88c angmsdaf=88d angmsdag=88e angmsdah=88f angrt=6qn angrtvb=6v2
angrtvbd=87x angsph=6qq angst=5h angzarr=70c aogon=79 aopf=2kpe ap=6rs apE=8ds apacir=8dr ape=6ru
apid=6rv apos=13 approx=6rs approxeq=6ru aring=6d ascr=2kl2 ast=16 asymp=6rs asympeq=6rx atilde=6b
auml=6c awconint=6r7 awint=8b5 bNot=8h9 backcong=6rw backepsilon=s6 backprime=6d1 backsim=6rh
backsimeq=6vh barvee=6v1 barwed=6x1 barwedge=6x1 bbrk=71x bbrktbrk=71y bcong=6rw bcy=tt bdquo=6ce
becaus=6r9 because=6r9 bemptyv=88g bepsi=s6 bernou=6jw beta=qa beth=6k6 between=6ss bfr=2knz
bigcap=6v6 bigcirc=7hr bigcup=6v7 bigodot=8ao bigoplus=8ap bigotimes=8aq bigsqcup=8au bigstar=7id
bigtriangledown=7gd bigtriangleup=7g3 biguplus=8as bigvee=6v5 bigwedge=6v4 bkarow=83x
blacklozenge=8a3 blacksquare=7fu blacktriangle=7g4 blacktriangledown=7ge blacktriangleleft=7gi
blacktriangleright=7g8 blank=74z blk12=7f6 blk14=7f5 blk34=7f7 block=7ew bne=1p+6hx
bnequiv=6sh+6hx bnot=6xc bopf=2kpf bot=6ud bottom=6ud bowtie=6vc boxDL=7dj boxDR=7dg boxDl=7di
boxDr=7df boxH=7dc boxHD=7dy boxHU=7e1 boxHd=7dw boxHu=7dz boxUL=7dp boxUR=7dm boxUl=7do boxUr=7dl
boxV=7dd boxVH=7e4 boxVL=7dv boxVR=7ds boxVh=7e3 boxVl=7du boxVr=7dr boxbox=895 boxdL=7dh
boxdR=7de boxdl=7bk boxdr=7bg boxh=7b4 boxhD=7dx boxhU=7e0 boxhd=7cc boxhu=7ck boxminus=6u7
boxplus=6u6 boxtimes=6u8 boxuL=7dn boxuR=7dk boxul=7bs boxur=7bo boxv=7b6 boxvH=7e2 boxvL=7dt
boxvR=7dq boxvh=7cs boxvl=7c4 boxvr=7bw bprime=6d1 breve=k8 brvbar=4m bscr=2kl3 bsemi=6dr bsim=6rh
bsime=6vh bsol=2k bsolb=891 bsolhsub=7uw bull=6ci bullet=6ci bump=6ry bumpE=8fi bumpe=6rz
bumpeq=6rz cacute=7b cap=6qx capand=8ck capbrcup=8cp capcap=8cr capcup=8cn capdot=8cg
caps=6qx+1e68 caret=6dd caron=jr ccaps=8ct ccaron=7h ccedil=6f ccirc=7d ccups=8cs ccupssm=8cw
cdot=7f cedil=54 cemptyv=88i cent=4i centerdot=53 cfr=2ko0 chcy=uf check=7pv checkmark=7pv chi=qv
cir=7gr cirE=88z circ=jq circeq=6s7 circlearrowleft=6nu circlearrowright=6nv circledR=4u
circledS=79k circledast=6u3 circledcirc=6u2 circleddash=6u5 cire=6s7 cirfnint=8b4 cirmid=8hb
cirscir=88y clubs=7kz clubsuit=7kz colon=1m colone=6s4 coloneq=6s4 comma=18 commat=1s comp=6pt
compfn=6qg complement=6pt complexes=6iq cong=6rp congdot=8dp conint=6r2 copf=2kpg coprod=6q8
copy=4p copysr=6jb crarr=6np cross=7pz cscr=2kl4 csub=8gf csube=8gh csup=8gg csupe=8gi ctdot=6wf
cudarrl=854 cudarrr=851 cuepr=6vy cuesc=6vz cularr=6nq cularrp=859 cup=6qy cupbrcap=8co cupcap=8cm
cupcup=8cq cupdot=6tp cupor=8cl cups=6qy+1e68 curarr=6nr curarrm=858 curlyeqprec=6vy
curlyeqsucc=6vz curlyvee=6vi curlywedge=6vj curren=4k curvearrowleft=6nq curvearrowright=6nr
cuvee=6vi cuwed=6vj cwconint=6r6 cwint=6r5 cylcty=6y5 dArr=6oj dHar=86d dagger=6cg daleth=6k8
darr=6mr dash=6c0 dashv=6ub dbkarow=83z dblac=kd dcaron=7j dcy=tw dd=6km ddagger=6ch ddarr=6oa
ddotseq=8dz deg=4w delta=qc demptyv=88h dfisht=873 dfr=2ko1 dharl=6o3 dharr=6o2 diam=6v8
diamond=6v8 diamondsuit=7l2 diams=7l2 die=4o digamma=rh disin=6wi div=6v divide=6v
divideontimes=6vb divonx=6vb djcy=uq dlcorn=6xq dlcrop=6x9 dollar=10 dopf=2kph dot=k9 doteq=6s0
doteqdot=6s1 dotminus=6rc dotplus=6qc dotsquare=6u9 doublebarwedge=6x2 downarrow=6mr
downdownarrows=6oa downharpoonleft=6o3 downharpoonright=6o2 drbkarow=840 drcorn=6xr drcrop=6x8
dscr=2kl5 dscy=ut dsol=8ae dstrok=7l dtdot=6wh dtri=7gf dtrif=7ge duarr=6ph duhar=86n dwangle=886
dzcy=v3 dzigrarr=7wf eDDot=8dz eDot=6s1 eacute=6h easter=8dq ecaron=7v ecir=6s6 ecirc=6i
ecolon=6s5 ecy=ul edot=7r ee=6kn efDot=6s2 efr=2ko2 eg=8ey egrave=6g egs=8eu egsdot=8ew el=8ex
elinters=73b ell=6j7 els=8et elsdot=8ev emacr=7n empty=6px emptyset=6px emptyv=6px emsp=6bn
emsp13=6bo emsp14=6bp eng=97 ensp=6bm eogon=7t eopf=2kpi epar=6vp eparsl=89v eplus=8dt epsi=qd
epsilon=qd epsiv=s5 eqcirc=6s6 eqcolon=6s5 eqsim=6rm eqslantgtr=8eu eqslantless=8et equals=1p
equest=6sf equiv=6sh equivDD=8e0 eqvparsl=89x erDot=6s3 erarr=86p escr=6jz esdot=6s0 esim=6rm
eta=qf eth=6o euml=6j euro=6gc excl=x exist=6pv expectation=6k0 exponentiale=6kn fallingdotseq=6s2
fcy=uc female=7k0 ffilig=1dkz fflig=1dkw ffllig=1dl0 ffr=2ko3 filig=1dkx fjlig=2u+2y flat=7l9
fllig=1dky fltns=7g1 fnof=b6 fopf=2kpj forall=6ps fork=6vo forkv=8gp fpartint=8b1 frac12=59
frac13=6kz frac14=58 frac15=6l1 frac16=6l5 frac18=6l7 frac23=6l0 frac25=6l2 frac34=5a frac35=6l3
frac38=6l8 frac45=6l4 frac56=6l6 frac58=6l9 frac78=6la frasl=6dg frown=6xu fscr=2kl7 gE=6sn
gEl=8ek gacute=dx gamma=qb gammad=rh gap=8ee gbreve=7z gcirc=7x gcy=tv gdot=81 ge=6sl gel=6vv
geq=6sl geqq=6sn geqslant=8e6 ges=8e6 gescc=8fd gesdot=8e8 gesdoto=8ea gesdotol=8ec gesl=6vv+1e68
gesles=8es gfr=2ko4 gg=6sr ggg=6vt gimel=6k7 gjcy=ur gl=6t3 glE=8eq gla=8f9 glj=8f8 gnE=6sp
gnap=8ei gnapprox=8ei gne=8eg gneq=8eg gneqq=6sp gnsim=6w7 gopf=2kpk grave=2o gscr=6iy gsim=6sz
gsime=8em gsiml=8eo gt=1q gtcc=8fb gtcir=8e2 gtdot=6vr gtlPar=87p gtquest=8e4 gtrapprox=8ee
gtrarr=86w gtrdot=6vr gtreqless=6vv gtreqqless=8ek gtrless=6t3 gtrsim=6sz gvertneqq=6sp+1e68
gvnE=6sp+1e68 hArr=6ok hairsp=6bu half=59 hamilt=6iz hardcy=ui harr=6ms harrcir=85k harrw=6nh
hbar=6j3 hcirc=85 hearts=7l1 heartsuit=7l1 hellip=6cm hercon=6ux hfr=2ko5 hksearow=84l
hkswarow=84m hoarr=6pr homtht=6rf hookleftarrow=6nd hookrightarrow=6ne hopf=2kpl horbar=6c5
hscr=2kl9 hslash=6j3 hstrok=87 hybull=6df hyphen=6c0 iacute=6l ic=6eb icirc=6m icy=u0 iecy=tx
iexcl=4h iff=6ok ifr=2ko6 igrave=6k ii=6ko iiiint=8b0 iiint=6r1 iinfin=89o iiota=6jt ijlig=8j
imacr=8b image=6j5 imagline=6j4 imagpart=6j5 imath=8h imof=6uv imped=c5 in=6q0 incare=6it
infin=6qm infintie=89p inodot=8h int=6qz intcal=6uy integers=6jo intercal=6uy intlarhk=8bb
intprod=8cc iocy=up iogon=8f iopf=2kpm iota=qh iprod=8cc iquest=5b iscr=2kla isin=6q0 isinE=6wp
isindot=6wl isins=6wk isinsv=6wj isinv=6q0 it=6ea itilde=89 iukcy=uu iuml=6n jcirc=8l jcy=u1
jfr=2ko7 jmath=fr jopf=2kpn jscr=2klb jsercy=uw jukcy=us kappa=qi kappav=s0 kcedil=8n kcy=u2
kfr=2ko8 kgreen=8o khcy=ud kjcy=v0 kopf=2kpo kscr=2klc lAarr=6oq lArr=6og lAtail=84b lBarr=83y
lE=6sm lEg=8ej lHar=86a lacute=8q laemptyv=88k lagran=6j6 lambda=qj lang=7vs langd=87l langle=7vs
lap=8ed laquo=4r larr=6mo larrb=6p0 larrbfs=84f larrfs=84d larrhk=6nd larrlp=6nf larrpl=855
larrsim=86r larrtl=6n6 lat=8ff latail=849 late=8fh lates=8fh+1e68 lbarr=83w lbbrk=7si lbrace=3f
lbrack=2j lbrke=87f lbrksld=87j lbrkslu=87h lcaron=8u lcedil=8s lceil=6x4 lcub=3f lcy=u3 ldca=852
ldquo=6cc ldquor=6ce ldrdhar=86f ldrushar=85n ldsh=6nm le=6sk leftarrow=6mo leftarrowtail=6n6
leftharpoondown=6nx leftharpoonup=6nw leftleftarrows=6o7 leftrightarrow=6ms leftrightarrows=6o6
leftrightharpoons=6ob leftrightsquigarrow=6nh leftthreetimes=6vf leg=6vu leq=6sk leqq=6sm
leqslant=8e5 les=8e5 lescc=8fc lesdot=8e7 lesdoto=8e9 lesdotor=8eb lesg=6vu+1e68 lesges=8er
lessapprox=8ed lessdot=6vq lesseqgtr=6vu lesseqqgtr=8ej lessgtr=6t2 lesssim=6sy lfisht=870
lfloor=6x6 lfr=2ko9 lg=6t2 lgE=8ep lhard=6nx lharu=6nw lharul=86i lhblk=7es ljcy=ux ll=6sq
llarr=6o7 llcorner=6xq llhard=86j lltri=7i2 lmidot=8w lmoust=71s lmoustache=71s lnE=6so lnap=8eh
lnapprox=8eh lne=8ef lneq=8ef lneqq=6so lnsim=6w6 loang=7vw loarr=6pp lobrk=7vq longleftarrow=7w5
longleftrightarrow=7w7 longmapsto=7wc longrightarrow=7w6 looparrowleft=6nf looparrowright=6ng
lopar=879 lopf=2kpp loplus=8bx lotimes=8c4 lowast=6qf lowbar=2n loz=7gq lozenge=7gq lozf=8a3
lpar=14 lparlt=87n lrarr=6o6 lrcorner=6xr lrhar=6ob lrhard=86l lrm=6by lrtri=6v3 lsaquo=6d5
lscr=2kld lsh=6nk lsim=6sy lsime=8el lsimg=8en lsqb=2j lsquo=6c8 lsquor=6ca lstrok=8y lt=1o
ltcc=8fa ltcir=8e1 ltdot=6vq lthree=6vf ltimes=6vd ltlarr=86u ltquest=8e3 ltrPar=87q ltri=7gj
ltrie=6us ltrif=7gi lurdshar=85m luruhar=86e lvertneqq=6so+1e68 lvnE=6so+1e68 mDDot=6re macr=4v
male=7k2 malt=7q8 maltese=7q8 map=6na mapsto=6na mapstodown=6nb mapstoleft=6n8 mapstoup=6n9
marker=7fy mcomma=8bt mcy=u4 mdash=6c4 measuredangle=6qp mfr=2koa mho=6jr micro=51 mid=6qr
midast=16 midcir=8hc middot=53 minus=6qa minusb=6u7 minusd=6rc minusdu=8bu mlcp=8gr mldr=6cm
mnplus=6qb models=6uf mopf=2kpq mp=6qb mscr=2kle mstpos=6ri mu=qk multimap=6uw mumap=6uw
nGg=6vt+mw nGt=6sr+6he nGtv=6sr+mw nLeftarrow=6od nLeftrightarrow=6oe nLl=6vs+mw nLt=6sq+6he
nLtv=6sq+mw nRightarrow=6of nVDash=6un nVdash=6um nabla=6pz nacute=90 nang=6qo+6he nap=6rt
napE=8ds+mw napid=6rv+mw napos=95 napprox=6rt natur=7la natural=7la naturals=6j9 nbsp=4g
nbump=6ry+mw nbumpe=6rz+mw ncap=8cj ncaron=94 ncedil=92 ncong=6rr ncongdot=8dp+mw ncup=8ci ncy=u5
ndash=6c3 ne=6sg neArr=6on nearhk=84k nearr=6mv nearrow=6mv nedot=6s0+mw nequiv=6si nesear=84o
nesim=6rm+mw nexist=6pw nexists=6pw nfr=2kob ngE=6sn+mw nge=6sx ngeq=6sx ngeqq=6sn+mw
ngeqslant=8e6+mw nges=8e6+mw ngsim=6t1 ngt=6sv ngtr=6sv nhArr=6oe nharr=6ni nhpar=8he ni=6q3
nis=6ws nisd=6wq niv=6q3 njcy=uy nlArr=6od nlE=6sm+mw nlarr=6my nldr=6cl nle=6sw nleftarrow=6my
nleftrightarrow=6ni nleq=6sw nleqq=6sm+mw nleqslant=8e5+mw nles=8e5+mw nless=6su nlsim=6t0 nlt=6su
nltri=6wa nltrie=6wc nmid=6qs nopf=2kpr not=4s notin=6q1 notinE=6wp+mw notindot=6wl+mw notinva=6q1
notinvb=6wn notinvc=6wm notni=6q4 notniva=6q4 notnivb=6wu notnivc=6wt npar=6qu nparallel=6qu
nparsl=8hp+6hx npart=6pu+mw npolint=8b8 npr=6tc nprcue=6w0 npre=8fj+mw nprec=6tc npreceq=8fj+mw
nrArr=6of nrarr=6mz nrarrc=84z+mw nrarrw=6n1+mw nrightarrow=6mz nrtri=6wb nrtrie=6wd nsc=6td
nsccue=6w1 nsce=8fk+mw nscr=2klf nshortmid=6qs nshortparallel=6qu nsim=6rl nsime=6ro nsimeq=6ro
nsmid=6qs nspar=6qu nsqsube=6w2 nsqsupe=6w3 nsub=6tg nsubE=8g5+mw nsube=6tk nsubset=6te+6he
nsubseteq=6tk nsubseteqq=8g5+mw nsucc=6td nsucceq=8fk+mw nsup=6th nsupE=8g6+mw nsupe=6tl
nsupset=6tf+6he nsupseteq=6tl nsupseteqq=8g6+mw ntgl=6t5 ntilde=6p ntlg=6t4 ntriangleleft=6wa
ntrianglelefteq=6wc ntriangleright=6wb ntrianglerighteq=6wd nu=ql num=z numero=6ja numsp=6br
nvDash=6ul nvHarr=83o nvap=6rx+6he nvdash=6uk nvge=6sl+6he nvgt=1q+6he nvinfin=89q nvlArr=83m
nvle=6sk+6he nvlt=1o+6he nvltrie=6us+6he nvrArr=83n nvrtrie=6ut+6he nvsim=6rg+6he nwArr=6om
nwarhk=84j nwarr=6mu nwarrow=6mu nwnear=84n oS=79k oacute=6r oast=6u3 ocir=6u2 ocirc=6s ocy=u6
odash=6u5 odblac=9d odiv=8c8 odot=6u1 odsold=88s oelig=9f ofcir=88v ofr=2koc ogon=kb ograve=6q
ogt=88x ohbar=88l ohm=q1 oint=6r2 olarr=6nu olcir=88u olcross=88r oline=6da olt=88w omacr=99
omega=qx omicron=qn omid=88m ominus=6ty oopf=2kps opar=88n operp=88p oplus=6tx or=6qw orarr=6nv
ord=8d9 order=6k4 orderof=6k4 ordf=4q ordm=56 origof=6uu oror=8d2 orslope=8d3 orv=8d7 oscr=6k4
oslash=6w osol=6u0 otilde=6t otimes=6tz otimesas=8c6 ouml=6u ovbar=6yl par=6qt para=52
parallel=6qt parsim=8hf parsl=8hp part=6pu pcy=u7 percnt=11 period=1a permil=6cw perp=6ud
pertenk=6cx pfr=2kod phi=qu phiv=r9 phmmat=6k3 phone=7im pi=qo pitchfork=6vo piv=ra planck=6j3
planckh=6j2 plankv=6j3 plus=17 plusacir=8bn plusb=6u6 pluscir=8bm plusdo=6qc plusdu=8bp pluse=8du
plusmn=4x plussim=8bq plustwo=8br pm=4x pointint=8b9 popf=2kpt pound=4j pr=6t6 prE=8fn prap=8fr
prcue=6t8 pre=8fj prec=6t6 precapprox=8fr preccurlyeq=6t8 preceq=8fj precnapprox=8ft precneqq=8fp
precnsim=6w8 precsim=6ta prime=6cy primes=6jd prnE=8fp prnap=8ft prnsim=6w8 prod=6q7 profalar=6y6
profline=6xe profsurf=6xf prop=6ql propto=6ql prsim=6ta prurel=6uo pscr=2klh psi=qw puncsp=6bs
qfr=2koe qint=8b0 qopf=2kpu qprime=6dz qscr=2kli quaternions=6j1 quatint=8ba quest=1r questeq=6sf
quot=y rAarr=6or rArr=6oi rAtail=84c rBarr=83z rHar=86c race=6rh+mp racute=9h radic=6qi
raemptyv=88j rang=7vt rangd=87m range=885 rangle=7vt raquo=57 rarr=6mq rarrap=86t rarrb=6p1
rarrbfs=84g rarrc=84z rarrfs=84e rarrhk=6ne rarrlp=6ng rarrpl=85h rarrsim=86s rarrtl=6n7 rarrw=6n1
ratail=84a ratio=6ra rationals=6je rbarr=83x rbbrk=7sj rbrace=3h rbrack=2l rbrke=87g rbrksld=87i
rbrkslu=87k rcaron=9l rcedil=9j rceil=6x5 rcub=3h rcy=u8 rdca=853 rdldhar=86h rdquo=6cd rdquor=6cd
rdsh=6nn real=6jg realine=6jf realpart=6jg reals=6jh rect=7fx reg=4u rfisht=871 rfloor=6x7
rfr=2kof rhard=6o1 rharu=6o0 rharul=86k rho=qp rhov=s1 rightarrow=6mq rightarrowtail=6n7
rightharpoondown=6o1 rightharpoonup=6o0 rightleftarrows=6o4 rightleftharpoons=6oc
rightrightarrows=6o9 rightsquigarrow=6n1 rightthreetimes=6vg ring=ka risingdotseq=6s3 rlarr=6o4
rlhar=6oc rlm=6bz rmoust=71t rmoustache=71t rnmid=8ha roang=7vx roarr=6pq robrk=7vr ropar=87a
ropf=2kpv roplus=8by rotimes=8c5 rpar=15 rpargt=87o rppolint=8b6 rrarr=6o9 rsaquo=6d6 rscr=2klj
rsh=6nl rsqb=2l rsquo=6c9 rsquor=6c9 rthree=6vg rtimes=6ve rtri=7g9 rtrie=6ut rtrif=7g8
rtriltri=89a ruluhar=86g rx=6ji sacute=9n sbquo=6ca sc=6t7 scE=8fo scap=8fs scaron=9t sccue=6t9
sce=8fk scedil=9r scirc=9p scnE=8fq scnap=8fu scnsim=6w9 scpolint=8b7 scsim=6tb scy=u9 sdot=6v9
sdotb=6u9 sdote=8di seArr=6oo searhk=84l searr=6mw searrow=6mw sect=4n semi=1n seswar=84p
setminus=6qe setmn=6qe sext=7qu sfr=2kog sfrown=6xu sharp=7lb shchcy=uh shcy=ug shortmid=6qr
shortparallel=6qt shy=4t sigma=qr sigmaf=qq sigmav=qq sim=6rg simdot=8dm sime=6rn simeq=6rn
simg=8f2 simgE=8f4 siml=8f1 simlE=8f3 simne=6rq simplus=8bo simrarr=86q slarr=6mo
smallsetminus=6qe smashp=8c3 smeparsl=89w smid=6qr smile=6xv smt=8fe smte=8fg smtes=8fg+1e68
softcy=uk sol=1b solb=890 solbar=6yn sopf=2kpw spades=7kw spadesuit=7kw spar=6qt sqcap=6tv
sqcaps=6tv+1e68 sqcup=6tw sqcups=6tw+1e68 sqsub=6tr sqsube=6tt sqsubset=6tr sqsubseteq=6tt
sqsup=6ts sqsupe=6tu sqsupset=6ts sqsupseteq=6tu squ=7fl square=7fl squarf=7fu squf=7fu srarr=6mq
sscr=2klk ssetmn=6qe ssmile=6xv sstarf=6va star=7ie starf=7id straightepsilon=s5 straightphi=r9
strns=4v sub=6te subE=8g5 subdot=8fx sube=6ti subedot=8g3 submult=8g1 subnE=8gb subne=6tm
subplus=8fz subrarr=86x subset=6te subseteq=6ti subseteqq=8g5 subsetneq=6tm subsetneqq=8gb
subsim=8g7 subsub=8gl subsup=8gj succ=6t7 succapprox=8fs succcurlyeq=6t9 succeq=8fk
succnapprox=8fu succneqq=8fq succnsim=6w9 succsim=6tb sum=6q9 sung=7l6 sup=6tf sup1=55 sup2=4y
sup3=4z supE=8g6 supdot=8fy supdsub=8go supe=6tj supedot=8g4 suphsol=7ux suphsub=8gn suplarr=86z
supmult=8g2 supnE=8gc supne=6tn supplus=8g0 supset=6tf supseteq=6tj supseteqq=8g6 supsetneq=6tn
supsetneqq=8gc supsim=8g8 supsub=8gk supsup=8gm swArr=6op swarhk=84m swarr=6mx swarrow=6mx
swnwar=84q szlig=67 target=6xi tau=qs tbrk=71w tcaron=9x tcedil=9v tcy=ua tdot=6hn telrec=6xh
tfr=2koh there4=6r8 therefore=6r8 theta=qg thetasym=r5 thetav=r5 thickapprox=6rs thicksim=6rg
thinsp=6bt thkap=6rs thksim=6rg thorn=72 tilde=kc times=5z timesb=6u8 timesbar=8c1 timesd=8c0
tint=6r1 toea=84o top=6uc topbot=6ye topcir=8hd topf=2kpx topfork=8gq tosa=84p tprime=6d0
trade=6jm triangle=7g5 triangledown=7gf triangleleft=7gj trianglelefteq=6us triangleq=6sc
triangleright=7g9 trianglerighteq=6ut tridot=7ho trie=6sc triminus=8ca triplus=8c9 trisb=899
tritime=8cb trpezium=736 tscr=2kll tscy=ue tshcy=uz tstrok=9z twixt=6ss twoheadleftarrow=6n2
twoheadrightarrow=6n4 uArr=6oh uHar=86b uacute=6y uarr=6mp ubrcy=v2 ubreve=a5 ucirc=6z ucy=ub
udarr=6o5 udblac=a9 udhar=86m ufisht=872 ufr=2koi ugrave=6x uharl=6nz uharr=6ny uhblk=7eo
ulcorn=6xo ulcorner=6xo ulcrop=6xb ultri=7i0 umacr=a3 uml=4o uogon=ab uopf=2kpy uparrow=6mp
updownarrow=6mt upharpoonleft=6nz upharpoonright=6ny uplus=6tq upsi=qt upsih=r6 upsilon=qt
upuparrows=6o8 urcorn=6xp urcorner=6xp urcrop=6xa uring=a7 urtri=7i1 uscr=2klm utdot=6wg utilde=a1
utri=7g5 utrif=7g4 uuarr=6o8 uuml=70 uwangle=887 vArr=6ol vBar=8h4 vBarv=8h5 vDash=6ug vangrt=87w
varepsilon=s5 varkappa=s0 varnothing=6px varphi=r9 varpi=ra varpropto=6ql varr=6mt varrho=s1
varsigma=qq varsubsetneq=6tm+1e68 varsubsetneqq=8gb+1e68 varsupsetneq=6tn+1e68
varsupsetneqq=8gc+1e68 vartheta=r5 vartriangleleft=6uq vartriangleright=6ur vcy=tu vdash=6ua
vee=6qw veebar=6uz veeeq=6sa vellip=6we verbar=3g vert=3g vfr=2koj vltri=6uq vnsub=6te+6he
vnsup=6tf+6he vopf=2kpz vprop=6ql vrtri=6ur vscr=2kln vsubnE=8gb+1e68 vsubne=6tm+1e68
vsupnE=8gc+1e68 vsupne=6tn+1e68 vzigzag=87u wcirc=ad wedbar=8db wedge=6qv wedgeq=6s9 weierp=6jc
wfr=2kok wopf=2kq0 wp=6jc wr=6rk wreath=6rk wscr=2klo xcap=6v6 xcirc=7hr xcup=6v7 xdtri=7gd
xfr=2kol xhArr=7wa xharr=7w7 xi=qm xlArr=7w8 xlarr=7w5 xmap=7wc xnis=6wr xodot=8ao xopf=2kq1
xoplus=8ap xotime=8aq xrArr=7w9 xrarr=7w6 xscr=2klp xsqcup=8au xuplus=8as xutri=7g3 xvee=6v5
xwedge=6v4 yacute=71 yacy=un ycirc=af ycy=uj yen=4l yfr=2kom yicy=uv yopf=2kq2 yscr=2klq yucy=um
yuml=73 zacute=ai zcaron=am zcy=tz zdot=ak zeetrf=6js zeta=qe zfr=2kon zhcy=ty zigrarr=6ot
zopf=2kq3 zscr=2klr zwj=6bx zwnj=6bw"

/-- The name and the characters that one entry of the table gives. -/
def entityOf (entry : List Char) : List Char × List Char :=
  let codes := ((entry.dropWhile (· ≠ '=')).drop 1).map fun c => if c = '+' then ' ' else c
  (entry.takeWhile (· ≠ '='), (CharSet.numbersFrom 0 codes).map Char.ofNat)

/-- The entry that begins with some characters. -/
def findEntry (beginning : List Char) (atStart : Bool) : List Char → Option (List Char)
  | [] => none
  | c :: cs =>
    if atStart && beginning.isPrefixOf (c :: cs) then
      some ((c :: cs).takeWhile fun d => d ≠ ' ' && d ≠ '\n')
    else findEntry beginning (c = ' ' || c = '\n') cs

/-- The characters of a name. -/
def namedChars? (name : List Char) : Option (List Char) :=
  (findEntry (name ++ ['=']) true entityTable.toList).map fun entry => (entityOf entry).2

/-- The value of a digit in a base, unless it is none. -/
def digitOf? (base : Nat) (c : Char) : Option Nat :=
  let value :=
    if c.isDigit then c.toNat - '0'.toNat
    else if 'a' ≤ c ∧ c ≤ 'f' then c.toNat - 'a'.toNat + 10
    else if 'A' ≤ c ∧ c ≤ 'F' then c.toNat - 'A'.toNat + 10
    else base
  if value < base then some value else none

/-- The character of a number. Zero stands for U+FFFD, and numbers without a
character for none. -/
def charOfNumber? (number : Nat) : Option Char :=
  if number = 0 then some '\ufffd'
  else if number.isValidChar then some (Char.ofNat number)
  else none

/-- Read a number of at most `most` digits and a semicolon: its character and
what follows. -/
def readNumber? (base most : Nat) (cs : List Char) : Option (List Char × List Char) :=
  let digits := (cs.take most).takeWhile fun c => (digitOf? base c).isSome
  match digits, cs.drop digits.length with
  | _ :: _, ';' :: rest =>
    let value := digits.foldl (fun n c => base * n + (digitOf? base c).getD 0) 0
    (charOfNumber? value).map fun c => ([c], rest)
  | _, _ => none

/-- Read what follows an ampersand, if it is a name or a number of a character:
the characters meant and what follows the semicolon. -/
def readEntity? : List Char → Option (List Char × List Char)
  | '#' :: 'x' :: cs | '#' :: 'X' :: cs => readNumber? 16 6 cs
  | '#' :: cs => readNumber? 10 7 cs
  | cs =>
    match cs.takeWhile Char.isAlphanum, cs.dropWhile Char.isAlphanum with
    | [], _ => none
    | name, ';' :: rest => (namedChars? name).map fun chars => (chars, rest)
    | _, _ => none

end Waymark.Markup
